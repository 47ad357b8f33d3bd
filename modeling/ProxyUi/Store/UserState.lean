import ProxyUi.Global

/-! The state of the `user` store module and its mutation tree. -/
namespace ProxyUi.Store

/-- The session state. The response types `SecurityServer` and `Version` are left abstract,
and the empty object `{}` of the last two fields is `none`. -/
structure UserState (SecurityServer Version : Type) where
  authenticated : Bool
  permissions : List String
  username : String
  currentSecurityServer : Option SecurityServer
  securityServerVersion : Option Version
  deriving DecidableEq, Repr

variable {SecurityServer Version : Type}

def userState : UserState SecurityServer Version :=
  ⟨false, [], "", none, none⟩

namespace UserState

@[simp] def authUser (state : UserState SecurityServer Version) :
    UserState SecurityServer Version :=
  { state with authenticated := true }

/-- Used to log the user out. The version field is not among those it clears. -/
@[simp] def clearAuthData (state : UserState SecurityServer Version) :
    UserState SecurityServer Version :=
  { state with authenticated := false, permissions := [], username := "",
               currentSecurityServer := none }

@[simp] def setPermissions (state : UserState SecurityServer Version) (permissions : List String) :
    UserState SecurityServer Version :=
  { state with permissions := permissions }

@[simp] def setUsername (state : UserState SecurityServer Version) (username : String) :
    UserState SecurityServer Version :=
  { state with username := username }

@[simp] def setCurrentSecurityServer (state : UserState SecurityServer Version)
    (securityServer : SecurityServer) : UserState SecurityServer Version :=
  { state with currentSecurityServer := some securityServer }

@[simp] def setSecurityServerVersion (state : UserState SecurityServer Version)
    (version : Version) : UserState SecurityServer Version :=
  { state with securityServerVersion := some version }

end UserState

/-- A `commit` of one mutation of the tree, with its payload. -/
inductive Mutation (SecurityServer Version : Type)
  | authUser
  | clearAuthData
  | setPermissions (permissions : List String)
  | setUsername (username : String)
  | setCurrentSecurityServer (securityServer : SecurityServer)
  | setSecurityServerVersion (version : Version)
  deriving DecidableEq, Repr

/-- `commit(type, payload)`: runs the named mutation of the tree on the state. -/
@[simp] def commit (state : UserState SecurityServer Version) :
    Mutation SecurityServer Version → UserState SecurityServer Version
  | .authUser => state.authUser
  | .clearAuthData => state.clearAuthData
  | .setPermissions permissions => state.setPermissions permissions
  | .setUsername username => state.setUsername username
  | .setCurrentSecurityServer securityServer => state.setCurrentSecurityServer securityServer
  | .setSecurityServerVersion version => state.setSecurityServerVersion version

def commitAll (state : UserState SecurityServer Version)
    (ms : List (Mutation SecurityServer Version)) : UserState SecurityServer Version :=
  ms.foldl commit state

@[simp] theorem commitAll_nil (state : UserState SecurityServer Version) :
    commitAll state [] = state := rfl

@[simp] theorem commitAll_cons (state : UserState SecurityServer Version)
    (m : Mutation SecurityServer Version) (ms : List (Mutation SecurityServer Version)) :
    commitAll state (m :: ms) = commitAll (commit state m) ms := rfl

inductive Field
  | authenticated
  | permissions
  | username
  | currentSecurityServer
  | securityServerVersion
  deriving DecidableEq, Repr

def Mutation.writes : Mutation SecurityServer Version → List Field
  | .authUser => [.authenticated]
  | .clearAuthData => [.authenticated, .permissions, .username, .currentSecurityServer]
  | .setPermissions _ => [.permissions]
  | .setUsername _ => [.username]
  | .setCurrentSecurityServer _ => [.currentSecurityServer]
  | .setSecurityServerVersion _ => [.securityServerVersion]

def UserState.AgreeOn (s t : UserState SecurityServer Version) : Field → Prop
  | .authenticated => s.authenticated = t.authenticated
  | .permissions => s.permissions = t.permissions
  | .username => s.username = t.username
  | .currentSecurityServer => s.currentSecurityServer = t.currentSecurityServer
  | .securityServerVersion => s.securityServerVersion = t.securityServerVersion

theorem UserState.AgreeOn.trans {s t u : UserState SecurityServer Version} {f : Field}
    (h₁ : s.AgreeOn t f) (h₂ : t.AgreeOn u f) : s.AgreeOn u f := by
  cases f <;> exact Eq.trans h₁ h₂

theorem commit_agreeOn {m : Mutation SecurityServer Version} {f : Field} (h : f ∉ m.writes)
    (state : UserState SecurityServer Version) : (commit state m).AgreeOn state f := by
  cases m <;> cases f <;> simp_all [Mutation.writes, UserState.AgreeOn]

theorem commitAll_agreeOn {ms : List (Mutation SecurityServer Version)} {f : Field}
    (h : ∀ m ∈ ms, f ∉ m.writes) (state : UserState SecurityServer Version) :
    (commitAll state ms).AgreeOn state f := by
  induction ms generalizing state with
  | nil => cases f <;> rfl
  | cons m ms ih =>
    exact (ih (fun m' hm' => h m' (.tail _ hm')) _).trans (commit_agreeOn (h m (.head _)) state)

theorem commit_comm {m₁ m₂ : Mutation SecurityServer Version}
    (h : ∀ f ∈ m₁.writes, f ∉ m₂.writes) (state : UserState SecurityServer Version) :
    commit (commit state m₁) m₂ = commit (commit state m₂) m₁ := by
  cases m₁ <;> cases m₂ <;> simp_all [Mutation.writes]

theorem commitAll_commit_comm {m : Mutation SecurityServer Version}
    {ms : List (Mutation SecurityServer Version)}
    (h : ∀ m' ∈ ms, ∀ state : UserState SecurityServer Version,
      commit (commit state m) m' = commit (commit state m') m)
    (state : UserState SecurityServer Version) :
    commitAll (commit state m) ms = commit (commitAll state ms) m := by
  induction ms generalizing state with
  | nil => rfl
  | cons m' ms ih =>
    rw [commitAll_cons, commitAll_cons, h m' (.head _) state,
      ih fun m'' hm'' => h m'' (.tail _ hm'')]

theorem commitAll_comm {ms₁ ms₂ : List (Mutation SecurityServer Version)}
    (h : ∀ m₁ ∈ ms₁, ∀ m₂ ∈ ms₂, ∀ state : UserState SecurityServer Version,
      commit (commit state m₁) m₂ = commit (commit state m₂) m₁)
    (state : UserState SecurityServer Version) :
    commitAll (commitAll state ms₁) ms₂ = commitAll (commitAll state ms₂) ms₁ := by
  induction ms₁ generalizing state with
  | nil => rfl
  | cons m ms₁ ih =>
    rw [commitAll_cons, commitAll_cons, ih fun m₁ hm₁ => h m₁ (.tail _ hm₁),
      commitAll_commit_comm (h m (.head _))]

theorem clearAuthData_eq (state : UserState SecurityServer Version) :
    state.clearAuthData =
      { (userState : UserState SecurityServer Version) with
        securityServerVersion := state.securityServerVersion } :=
  rfl

theorem commitAll_securityServerVersion_eq_none (state : UserState SecurityServer Version)
    (ms : List (Mutation SecurityServer Version)) :
    (commitAll state ms).securityServerVersion = none ↔
      state.securityServerVersion = none ∧ ∀ v, .setSecurityServerVersion v ∉ ms := by
  induction ms generalizing state with
  | nil => simp
  | cons m ms ih =>
    cases m with
    | setSecurityServerVersion v => simpa [ih] using fun _ => ⟨v, fun h => (h rfl).elim⟩
    | _ => simp [ih]

/-- After any sequence of commits from the initial state, `clearAuthData` restores the initial
state exactly when no commit set the version. -/
theorem clearAuthData_commitAll_eq_userState (ms : List (Mutation SecurityServer Version)) :
    (commitAll userState ms).clearAuthData = userState ↔
      ∀ v, .setSecurityServerVersion v ∉ ms := by
  rw [clearAuthData_eq]
  simp [userState, commitAll_securityServerVersion_eq_none]

/-- A version set in the session survives `clearAuthData`. -/
theorem clearAuthData_keeps_securityServerVersion :
    (commitAll (userState : UserState String String)
        [.setSecurityServerVersion "7.0.0"]).clearAuthData =
      { (userState : UserState String String) with securityServerVersion := some "7.0.0" } ∧
    (commitAll (userState : UserState String String)
        [.setSecurityServerVersion "7.0.0"]).clearAuthData ≠ userState := by
  decide

end ProxyUi.Store
