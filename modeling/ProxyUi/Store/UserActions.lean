import ProxyUi.Store.UserState

/-! The actions of the `user` module: what each sends when dispatched, and what its `then`
and `catch` handlers commit once the request settles. -/
namespace ProxyUi.Store

variable {SecurityServer Version : Type}

/-- The body of the `/user` response. -/
structure User where
  username : String
  permissions : List String
  deriving DecidableEq, Repr

/-- The body `login` posts to `/login`; the fields are not encoded. -/
def loginData (username password : String) : String :=
  "username=" ++ username ++ "&password=" ++ password

/-- A request still in flight, named by the action that sent it. The logout request reloads
the page once it settles; the `demoLogout` one does not. -/
inductive Request
  | login (data : String)
  | fetchUserData
  | fetchCurrentSecurityServer
  | fetchSecurityServerVersion
  | logout
  | demoLogout
  deriving DecidableEq, Repr

namespace Request

/-- The body a request's call resolves with; `current_server=true` answers with a list,
`undefined` being `none`. -/
def Body (SecurityServer Version : Type) : Request → Type
  | login _ => Unit
  | fetchUserData => User
  | fetchCurrentSecurityServer => Option (List SecurityServer)
  | fetchSecurityServerVersion => Version
  | logout => Unit
  | demoLogout => Unit

def isFetch : Request → Bool
  | fetchUserData | fetchCurrentSecurityServer | fetchSecurityServerVersion => true
  | _ => false

end Request

/-- How an action's promise rejects: with the failed request's own error, rethrown, or with
`new Error(i18n.t(key))`. -/
inductive ActionError
  | request
  | message (key : String)
  deriving DecidableEq, Repr

namespace Request

/-- The handlers of a request once its call settles (`none` when it was rejected): the
mutations committed, in order, or the error the action's promise rejects with. The logout
calls swallow their error. -/
def settle : (r : Request) → Option (r.Body SecurityServer Version) →
    Except ActionError (List (Mutation SecurityServer Version))
  | login _, some _ => .ok [.authUser]
  | fetchUserData, some res => .ok [.setUsername res.username, .setPermissions res.permissions]
  | fetchCurrentSecurityServer, some (some [securityServer]) =>
    .ok [.setCurrentSecurityServer securityServer]
  | fetchCurrentSecurityServer, some _ =>
    .error (.message "stores.user.currentSecurityServerNotFound")
  | fetchSecurityServerVersion, some version => .ok [.setSecurityServerVersion version]
  | logout, _ => .ok []
  | demoLogout, _ => .ok []
  | _, none => .error .request

/-- The mutations a request's handlers commit once it settles: none when they reject. -/
def commits (r : Request) (res : Option (r.Body SecurityServer Version)) :
    List (Mutation SecurityServer Version) :=
  match r.settle res with
  | .ok ms => ms
  | .error _ => []

def writes : Request → List Field
  | login _ => [.authenticated]
  | fetchUserData => [.username, .permissions]
  | fetchCurrentSecurityServer => [.currentSecurityServer]
  | fetchSecurityServerVersion => [.securityServerVersion]
  | logout | demoLogout => []

def isLogin : Request → Bool
  | login _ => true
  | _ => false

theorem commits_cases (r : Request) (res : Option (r.Body SecurityServer Version)) :
    r.commits res = [] ∨ (r.isLogin = true ∧ r.commits res = [.authUser]) ∨
      (r.isFetch = true ∧ ∀ m ∈ r.commits res, ∀ f ∈ m.writes, f ∈ r.writes) := by
  cases r with
  | fetchCurrentSecurityServer =>
    rcases res with _ | _ | _ | ⟨server, _ | _⟩ <;>
      simp [commits, settle, isFetch, writes, Mutation.writes]
  | _ => cases res <;> simp [commits, settle, isFetch, isLogin, writes, Mutation.writes]

theorem authenticated_not_mem_writes {r : Request} (h : r.isFetch = true) :
    .authenticated ∉ r.writes := by
  cases r <;> simp_all [isFetch, writes]

theorem writes_of_mem_commits {r : Request} {res : Option (r.Body SecurityServer Version)}
    {m : Mutation SecurityServer Version} (h : m ∈ r.commits res) : ∀ f ∈ m.writes, f ∈ r.writes := by
  rcases r.commits_cases res with hc | ⟨hl, hc⟩ | ⟨-, hw⟩
  · simp [hc] at h
  · obtain rfl := List.mem_singleton.mp (hc ▸ h)
    cases r <;> simp_all [isLogin, writes, Mutation.writes]
  · exact hw m h

theorem commits_comm {r₁ r₂ : Request} (hd : ∀ f ∈ r₁.writes, f ∉ r₂.writes)
    (res₁ : Option (r₁.Body SecurityServer Version))
    (res₂ : Option (r₂.Body SecurityServer Version)) :
    ∀ m₁ ∈ r₁.commits res₁, ∀ m₂ ∈ r₂.commits res₂, ∀ state : UserState SecurityServer Version,
      commit (commit state m₁) m₂ = commit (commit state m₂) m₁ :=
  fun _ hm₁ _ hm₂ => commit_comm fun f hf hf₂ =>
    hd f (writes_of_mem_commits hm₁ f hf) (writes_of_mem_commits hm₂ f hf₂)

end Request

inductive Action
  | login (username password : String)
  | fetchUserData
  | fetchCurrentSecurityServer
  | fetchSecurityServerVersion
  | logout
  | clearAuth
  | demoLogout
  deriving DecidableEq, Repr

namespace Action

/-- What an action does when dispatched: the mutations it commits at once and the request
it sends. -/
def dispatch : Action → List (Mutation SecurityServer Version) × Option Request
  | login username password => ([], some (.login (loginData username password)))
  | fetchUserData => ([], some .fetchUserData)
  | fetchCurrentSecurityServer => ([], some .fetchCurrentSecurityServer)
  | fetchSecurityServerVersion => ([], some .fetchSecurityServerVersion)
  | logout => ([.clearAuthData], some .logout)
  | clearAuth => ([.clearAuthData], none)
  | demoLogout => ([], some .demoLogout)

def isLogin : Action → Bool
  | login _ _ => true
  | _ => false

def clearsAuth : Action → Bool
  | logout | clearAuth => true
  | _ => false

def isFetch : Action → Bool
  | fetchUserData | fetchCurrentSecurityServer | fetchSecurityServerVersion => true
  | _ => false

end Action
end ProxyUi.Store
