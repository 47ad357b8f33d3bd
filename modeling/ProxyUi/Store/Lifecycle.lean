import ProxyUi.Store.Session

/-! The session lifecycle of the specification, `LoggedOut → Authenticating → LoggedIn →
LoggedOut`, and the page as a refinement of it under the application's guarded use. -/
namespace ProxyUi.Store

variable {SecurityServer Version : Type}

structure SessionData (SecurityServer : Type) where
  username : String
  permissions : List String
  currentSecurityServer : Option SecurityServer
  deriving DecidableEq, Repr

/-- A session as the specification describes it: only a logged-in session holds user data.
The server version is left aside, as `clearAuthData` does not reset it. -/
inductive Session (SecurityServer : Type)
  | loggedOut
  | authenticating
  | loggedIn (data : SessionData SecurityServer)
  deriving DecidableEq, Repr

namespace Session

/-- The lifecycle's transitions, as the specification names them. -/
inductive Transition (SecurityServer : Type)
  | login
  | accepted
  | rejected
  | userLoaded (user : User)
  | serverLoaded (securityServer : SecurityServer)
  | logout
  | reload
  deriving DecidableEq, Repr

/-- A transition of the lifecycle, `none` where the specification has no such transition:
a login starts from a logged-out session, the fetched data fills a logged-in one, logout
ends a logged-in session and leaves a logged-out one so, and the reload ends any. -/
def step : Session SecurityServer → Transition SecurityServer → Option (Session SecurityServer)
  | loggedOut, .login => some authenticating
  | authenticating, .accepted => some (loggedIn ⟨"", [], none⟩)
  | authenticating, .rejected => some loggedOut
  | loggedIn data, .userLoaded user =>
    some (loggedIn { data with username := user.username, permissions := user.permissions })
  | loggedIn data, .serverLoaded securityServer =>
    some (loggedIn { data with currentSecurityServer := some securityServer })
  | loggedIn _, .logout | loggedOut, .logout => some loggedOut
  | _, .reload => some loggedOut
  | _, _ => none

/-- Runs transitions in order; `none` at the first one the lifecycle does not allow. -/
def run : Session SecurityServer → List (Transition SecurityServer) → Option (Session SecurityServer)
  | session, [] => some session
  | session, t :: ts => (session.step t).bind (run · ts)

@[simp] theorem step_reload (session : Session SecurityServer) :
    session.step .reload = some loggedOut := by
  cases session <;> rfl

@[simp] theorem run_nil (session : Session SecurityServer) : session.run [] = some session :=
  rfl

@[simp] theorem run_singleton (session : Session SecurityServer) (t : Transition SecurityServer) :
    session.run [t] = session.step t := by
  simp [run]

/-- The user state a session stands for, beside the server version it does not track. -/
def toUserState (version : Option Version) :
    Session SecurityServer → UserState SecurityServer Version
  | loggedIn data => ⟨true, data.permissions, data.username, data.currentSecurityServer, version⟩
  | _ => ⟨false, [], "", none, version⟩

/-- The session a user state stands for, given how many logins are in flight. -/
def ofUserState (state : UserState SecurityServer Version) (logins : Nat) :
    Session SecurityServer :=
  if state.authenticated then
    loggedIn ⟨state.username, state.permissions, state.currentSecurityServer⟩
  else if logins = 0 then loggedOut else authenticating

theorem toUserState_ofUserState {state : UserState SecurityServer Version}
    (h : LoggedOutEmpty state) (logins : Nat) :
    (ofUserState state logins).toUserState state.securityServerVersion = state := by
  obtain ⟨_ | _, permissions, username, currentSecurityServer, version⟩ := state
  · obtain ⟨rfl, rfl, rfl⟩ := h rfl
    simp only [ofUserState, Bool.false_eq_true, if_false]
    split_ifs <;> rfl
  · rfl

end Session

/-- The lifecycle transition an event makes, if any. Fetch dispatches, `demoLogout`, the
version response and failed fetches make none. -/
def Event.lifecycle : Event SecurityServer Version → Option (Session.Transition SecurityServer)
  | .dispatch (.login _ _) => some .login
  | .dispatch .logout | .dispatch .clearAuth => some .logout
  | .dispatch _ => none
  | .settle ⟨_, .login _⟩ (some _) => some .accepted
  | .settle ⟨_, .login _⟩ none => some .rejected
  | .settle ⟨_, .fetchUserData⟩ (some user) => some (.userLoaded user)
  | .settle ⟨_, .fetchCurrentSecurityServer⟩ (some (some [securityServer])) =>
    some (.serverLoaded securityServer)
  | .settle ⟨_, .logout⟩ _ => some .reload
  | .settle _ _ => none

namespace Page

def loginsInFlight (page : Page SecurityServer Version) : Nat :=
  page.inFlight.countP (·.request.isLogin)

/-- The session a page stands for. -/
def session (page : Page SecurityServer Version) : Session SecurityServer :=
  Session.ofUserState page.state page.loginsInFlight

/-- The login form submits only while logged out with no login pending, and neither `logout`
nor `clearAuth` is dispatched while a login is pending. -/
def LoginGuard (page : Page SecurityServer Version) : Event SecurityServer Version → Prop
  | .dispatch a =>
    (a.isLogin = true → page.state.authenticated = false ∧ page.loginsInFlight = 0) ∧
      (a.clearsAuth = true → page.loginsInFlight = 0)
  | .settle _ _ => True

/-- The application's use of the store: `EnabledTimely` and the login form's guard. -/
def Guarded (page : Page SecurityServer Version) (e : Event SecurityServer Version) : Prop :=
  page.EnabledTimely e ∧ page.LoginGuard e

instance (page : Page SecurityServer Version) (e : Event SecurityServer Version) :
    Decidable (page.Guarded e) :=
  match e with
  | .dispatch _ => inferInstanceAs (Decidable (_ ∧ ((_ → _ ∧ _) ∧ (_ → _))))
  | .settle _ _ => inferInstanceAs (Decidable (_ ∧ True))

/-- What guarded use keeps: no user data while logged out, no login in flight while
authenticated, and at most one login in flight. -/
structure LoginInvariant (page : Page SecurityServer Version) : Prop where
  loggedOutEmpty : LoggedOutEmpty page.state
  noLogin : page.state.authenticated = true → page.loginsInFlight = 0
  atMostOne : page.loginsInFlight ≤ 1

@[simp] theorem session_initial : (initial : Page SecurityServer Version).session = .loggedOut :=
  rfl

theorem loginInvariant_initial : (initial : Page SecurityServer Version).LoginInvariant :=
  ⟨loggedOutEmpty_userState, fun _ => rfl, Nat.zero_le _⟩

theorem loginsInFlight_dispatch (page : Page SecurityServer Version) (a : Action) :
    (page.dispatch a).loginsInFlight = page.loginsInFlight + if a.isLogin then 1 else 0 := by
  cases a <;> simp [loginsInFlight, dispatch, Action.dispatch, Action.isLogin, Request.isLogin]

theorem loginsInFlight_settle {page : Page SecurityServer Version} {c : Call}
    (hr : c.request ≠ .logout) (hm : c ∈ page.inFlight)
    (res : Option (c.request.Body SecurityServer Version)) :
    page.loginsInFlight = (page.settle c res).loginsInFlight + if c.request.isLogin then 1 else 0 := by
  simp only [loginsInFlight, settle, if_neg hr]
  rw [(List.perm_cons_erase hm).countP_eq, List.countP_cons]

theorem settle_authenticated_of_not_login {c : Call} (hr : c.request ≠ .logout)
    (hl : c.request.isLogin = false) (page : Page SecurityServer Version)
    (res : Option (c.request.Body SecurityServer Version)) :
    (page.settle c res).state.authenticated = page.state.authenticated :=
  @settle_agreeOn _ _ c .authenticated hr
    (by obtain ⟨_, r⟩ := c; cases r <;> simp_all [Request.writes, Request.isLogin]) page res

theorem settle_state_of_ne_logout {c : Call} (hr : c.request ≠ .logout)
    (page : Page SecurityServer Version) (res : Option (c.request.Body SecurityServer Version)) :
    (page.settle c res).state = commitAll page.state (c.request.commits res) := by
  simp only [settle, if_neg hr]

theorem loginInvariant_next {page : Page SecurityServer Version} (hi : page.LoginInvariant)
    {e : Event SecurityServer Version} (he : page.Guarded e) : (page.next e).LoginInvariant := by
  cases e with
  | dispatch a =>
    show LoginInvariant (page.dispatch a)
    have hl := loginsInFlight_dispatch page a
    have hauth : (page.dispatch a).state.authenticated = true →
        page.state.authenticated = true := by
      rw [dispatch_state]; split <;> simp
    refine ⟨loggedOutEmpty_dispatch hi.1 a, fun ha => ?_, ?_⟩ <;> rw [hl] <;>
      cases hli : a.isLogin
    · simpa using hi.2 (hauth ha)
    · simp [ha, (he.2.1 hli).1] at hauth
    · simpa using hi.3
    · simp [(he.2.1 hli).2]
  | settle c res =>
    show LoginInvariant (page.settle c res)
    by_cases hr : c.request = .logout
    · simp only [settle, if_pos hr]
      exact loginInvariant_initial
    have hl := loginsInFlight_settle hr he.1.1 res
    have h1 := hi.3
    refine ⟨loggedOutEmpty_settle hi.1 he.1.2, fun ha => ?_, ?_⟩ <;>
      cases hli : c.request.isLogin <;> simp [hli] at hl
    · have := hi.2 (settle_authenticated_of_not_login hr hli page res ▸ ha)
      omega
    all_goals omega

theorem loginInvariant_of_reachable {page : Page SecurityServer Version}
    (h : Reachable Guarded page) : page.LoginInvariant := by
  induction h with
  | initial => exact loginInvariant_initial
  | step _ he ih => exact loginInvariant_next ih he

theorem session_next {page : Page SecurityServer Version} (hi : page.LoginInvariant)
    {e : Event SecurityServer Version} (he : page.Guarded e) :
    page.session.run e.lifecycle.toList = some (page.next e).session := by
  cases e with
  | dispatch a =>
    show _ = some (page.dispatch a).session
    rw [session, session, loginsInFlight_dispatch, dispatch_state]
    cases a with
    | login username password =>
      obtain ⟨ha, h0⟩ := he.2.1 rfl
      simp [Event.lifecycle, Session.ofUserState, Session.step, ha, h0, Action.isLogin,
        Action.clearsAuth]
    | logout | clearAuth =>
      have h0 := he.2.2 rfl
      cases ha : page.state.authenticated <;>
        simp [Event.lifecycle, Session.ofUserState, Session.step, ha, h0, Action.isLogin,
          Action.clearsAuth]
    | _ => simp [Event.lifecycle, Action.isLogin, Action.clearsAuth]
  | settle c res =>
    show _ = some (page.settle c res).session
    obtain ⟨id, r⟩ := c
    by_cases hr : r = .logout
    · subst hr
      simp [Event.lifecycle, settle]
    have hl := loginsInFlight_settle hr he.1.1 res
    have hn : r.isLogin = false →
        (page.settle ⟨id, r⟩ res).loginsInFlight = page.loginsInFlight :=
      fun h => by simpa [h] using hl.symm
    rw [session, session, settle_state_of_ne_logout hr]
    cases r with
    | logout => exact absurd rfl hr
    | login data =>
      have h1 := hi.3
      simp only [Request.isLogin, if_true] at hl
      have ha : page.state.authenticated = false :=
        Bool.eq_false_iff.mpr fun h => absurd (hi.2 h) (by omega)
      rw [show page.loginsInFlight = 1 by omega,
        show (page.settle _ res).loginsInFlight = 0 by omega]
      obtain ⟨hp, hu, hc⟩ := hi.1 ha
      cases res <;> simp [Event.lifecycle, Session.ofUserState, Session.step, Request.commits,
        Request.settle, ha, hp, hu, hc]
    | fetchUserData =>
      rw [hn rfl]
      cases res with
      | none => simp [Event.lifecycle, Request.commits, Request.settle]
      | some u =>
        have ha := he.1.2 (by simp [Request.commits, Request.settle, Mutation.writesUserData,
          Mutation.writes, Field.isUserData])
        simp [Event.lifecycle, Session.ofUserState, Session.step, Request.commits,
          Request.settle, ha]
    | fetchCurrentSecurityServer =>
      rw [hn rfl]
      -- every answer but a single server leaves the session as it is
      rcases res with _ | _ | _ | ⟨server, _ | _⟩ <;>
        try (simp [Event.lifecycle, Request.commits, Request.settle]; done)
      have ha := he.1.2 (by simp [Request.commits, Request.settle, Mutation.writesUserData,
        Mutation.writes, Field.isUserData])
      simp [Event.lifecycle, Session.ofUserState, Session.step, Request.commits,
        Request.settle, ha]
    | fetchSecurityServerVersion | demoLogout =>
      rw [hn rfl]
      cases res <;> simp [Event.lifecycle, Session.ofUserState, Request.commits, Request.settle]

theorem session_run {page : Page SecurityServer Version} (hi : page.LoginInvariant)
    {es : List (Event SecurityServer Version)} (h : RunAllowed Guarded page es) :
    page.session.run (es.filterMap Event.lifecycle) = some (page.run es).session := by
  induction es generalizing page with
  | nil => rfl
  | cons e es ih =>
    have hs := session_next hi h.1
    rw [List.filterMap_cons, run_cons, ← ih (loginInvariant_next hi h.1) h.2]
    cases ht : e.lifecycle with
    | none =>
      simp only [ht, Option.toList, Session.run, Option.some.injEq] at hs
      rw [hs]
    | some t =>
      simp only [ht, Option.toList, Session.run_singleton] at hs
      rw [Session.run, hs, Option.some_bind]

def loginLoadLogout : List (Event String Unit) :=
  [.dispatch (.login "admin" "secret"), .settle ⟨0, .login (loginData "admin" "secret")⟩ (some ()),
   .dispatch .fetchUserData, .dispatch .fetchCurrentSecurityServer,
   .settle ⟨2, .fetchCurrentSecurityServer⟩ (some (some ["ss1"])),
   .settle ⟨1, .fetchUserData⟩ (some ⟨"admin", [Permissions.viewKeys]⟩), .dispatch .logout]

/-- Under guarded use the page refines the session lifecycle. Along every run from a fresh
page, the lifecycle allows each transition the run's events make and ends on the page's
session, and the page's state is exactly the state that session stands for, the server
version aside. -/
theorem refines_lifecycle {es : List (Event SecurityServer Version)}
    (h : RunAllowed Guarded initial es) :
    Session.run .loggedOut (es.filterMap Event.lifecycle) = some (initial.run es).session ∧
      (initial.run es).state =
        (initial.run es).session.toUserState (initial.run es).state.securityServerVersion :=
  ⟨session_run loginInvariant_initial h, (Session.toUserState_ofUserState
    (loginInvariant_of_reachable (Reachable.initial.run h)).1 _).symm⟩

theorem refines_lifecycle_loginLoadLogout :
    RunAllowed Guarded initial loginLoadLogout ∧
      Session.run .loggedOut (loginLoadLogout.filterMap Event.lifecycle) =
        some (initial.run loginLoadLogout).session ∧
      (initial.run loginLoadLogout).state =
        (initial.run loginLoadLogout).session.toUserState
          (initial.run loginLoadLogout).state.securityServerVersion :=
  have h : RunAllowed Guarded initial loginLoadLogout :=
    ⟨by decide, by decide, by decide, by decide, by decide, by decide, by decide, trivial⟩
  ⟨h, refines_lifecycle h⟩

end Page
end ProxyUi.Store
