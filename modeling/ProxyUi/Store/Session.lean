import ProxyUi.Store.Page

/-! A logged-out session holds no user data: how far the page keeps this when late responses
interleave with `logout` and `clearAuth`. -/
namespace ProxyUi.Store

variable {SecurityServer Version : Type}

/-- A logged-out state holds no username, permission or current server. -/
def LoggedOutEmpty (state : UserState SecurityServer Version) : Prop :=
  state.authenticated = false →
    state.permissions = [] ∧ state.username = "" ∧ state.currentSecurityServer = none

/-- The fields a logged-out state holds empty. -/
def Field.isUserData : Field → Bool
  | .permissions | .username | .currentSecurityServer => true
  | .authenticated | .securityServerVersion => false

def Mutation.writesUserData (m : Mutation SecurityServer Version) : Bool :=
  m.writes.any Field.isUserData

theorem loggedOutEmpty_userState :
    LoggedOutEmpty (userState : UserState SecurityServer Version) := by
  simp [LoggedOutEmpty, userState]

theorem loggedOutEmpty_of_authenticated {state : UserState SecurityServer Version}
    (h : state.authenticated = true) : LoggedOutEmpty state := by
  simp [LoggedOutEmpty, h]

theorem loggedOutEmpty_clearAuthData (state : UserState SecurityServer Version) :
    LoggedOutEmpty state.clearAuthData := by
  simp [LoggedOutEmpty]

theorem authenticated_commitAll_commits {state : UserState SecurityServer Version}
    (h : state.authenticated = true) (r : Request) (res : Option (r.Body SecurityServer Version)) :
    (commitAll state (r.commits res)).authenticated = true := by
  rcases r.commits_cases res with hc | ⟨-, hc⟩ | ⟨hf, hw⟩
  · rw [hc]; exact h
  · rw [hc]; rfl
  · exact Eq.trans (commitAll_agreeOn
      (fun m hm hm' => Request.authenticated_not_mem_writes hf (hw m hm _ hm')) _) h

theorem commitAll_agreeOn_of_not_writesUserData {ms : List (Mutation SecurityServer Version)}
    (hw : ms.any Mutation.writesUserData = false) (f : Field) (hf : f.isUserData = true)
    (state : UserState SecurityServer Version) : (commitAll state ms).AgreeOn state f :=
  commitAll_agreeOn (fun m hm hfm => by
    simp only [List.any_eq_false] at hw
    exact hw m hm (List.any_eq_true.mpr ⟨f, hfm, hf⟩)) state

theorem any_writesUserData_of_not_fetch {r : Request} (hf : r.isFetch = false)
    (res : Option (r.Body SecurityServer Version)) :
    (r.commits res).any Mutation.writesUserData = false := by
  rcases r.commits_cases res with hc | ⟨-, hc⟩ | ⟨hf', -⟩
  · simp [hc]
  · simp [hc, Mutation.writesUserData, Mutation.writes, Field.isUserData]
  · simp [hf] at hf'

namespace Page

/-- A response whose handlers write user data, a user or a current server, arrives while the
user is logged in. Failed responses and version responses may arrive at any time. -/
def Timely (page : Page SecurityServer Version) : Event SecurityServer Version → Prop
  | .dispatch _ => True
  | .settle c res =>
    (c.request.commits res).any Mutation.writesUserData = true → page.state.authenticated = true

/-- The store's callers, in runs where no response that writes user data arrives while the
user is logged out. -/
def EnabledTimely (page : Page SecurityServer Version) (e : Event SecurityServer Version) : Prop :=
  page.Enabled e ∧ page.Timely e

instance (page : Page SecurityServer Version) (e : Event SecurityServer Version) :
    Decidable (page.EnabledTimely e) :=
  match e with
  | .dispatch _ => inferInstanceAs (Decidable (_ ∧ True))
  | .settle _ _ => inferInstanceAs (Decidable (_ ∧ (_ → _)))

theorem loggedOutEmpty_dispatch {page : Page SecurityServer Version}
    (h : LoggedOutEmpty page.state) (a : Action) : LoggedOutEmpty (page.dispatch a).state := by
  rw [dispatch_state]
  split_ifs
  exacts [loggedOutEmpty_clearAuthData _, h]

theorem loggedOutEmpty_settle {page : Page SecurityServer Version} (h : LoggedOutEmpty page.state)
    {c : Call} {res : Option (c.request.Body SecurityServer Version)}
    (ht : (c.request.commits res).any Mutation.writesUserData = true →
      page.state.authenticated = true) :
    LoggedOutEmpty (page.settle c res).state := by
  unfold settle
  split_ifs
  · exact loggedOutEmpty_userState
  cases hw : (c.request.commits res).any Mutation.writesUserData
  · intro ha
    have hauth : page.state.authenticated = false :=
      Bool.eq_false_iff.mpr fun h' => by simp [authenticated_commitAll_commits h'] at ha
    obtain ⟨hp, hu, hc⟩ := h hauth
    exact ⟨Eq.trans (commitAll_agreeOn_of_not_writesUserData hw .permissions rfl _) hp,
      Eq.trans (commitAll_agreeOn_of_not_writesUserData hw .username rfl _) hu,
      Eq.trans (commitAll_agreeOn_of_not_writesUserData hw .currentSecurityServer rfl _) hc⟩
  · exact loggedOutEmpty_of_authenticated (authenticated_commitAll_commits (ht hw) _ _)

theorem loggedOutEmpty_next {page : Page SecurityServer Version} (h : LoggedOutEmpty page.state)
    {e : Event SecurityServer Version} (ht : page.Timely e) :
    LoggedOutEmpty (page.next e).state := by
  cases e with
  | dispatch a => exact loggedOutEmpty_dispatch h a
  | settle c res => exact loggedOutEmpty_settle h ht

theorem loggedOutEmpty_of_reachable {page : Page SecurityServer Version}
    (h : Reachable EnabledTimely page) : LoggedOutEmpty page.state := by
  induction h with
  | initial => exact loggedOutEmpty_userState
  | step _ he ih => exact loggedOutEmpty_next ih he.2

/-- In runs where every response that writes user data arrives while the user is logged in,
a logged-out session holds no user data and grants no permission. -/
theorem loggedOut_holds_no_user_data {page : Page SecurityServer Version}
    (h : Reachable EnabledTimely page)
    (hauth : page.state.authenticated = false) :
    page.state.permissions = [] ∧ page.state.username = "" ∧
      page.state.currentSecurityServer = none ∧ ∀ perm, page.state.hasPermission perm = false := by
  obtain ⟨hp, hu, hc⟩ := loggedOutEmpty_of_reachable h hauth
  exact ⟨hp, hu, hc, fun perm => by simp [UserState.hasPermission, hp]⟩

/-- Log in and load the user, send two more fetches, `clearAuth`; then the version response
and a failed `/user` call arrive late. -/
def lateResponsesAfterClearAuth : List (Event Unit Unit) :=
  [.dispatch (.login "admin" "secret"), .settle ⟨0, .login (loginData "admin" "secret")⟩ (some ()),
   .dispatch .fetchUserData, .settle ⟨1, .fetchUserData⟩ (some ⟨"admin", [Permissions.viewClients]⟩),
   .dispatch .fetchSecurityServerVersion, .dispatch .fetchUserData, .dispatch .clearAuth,
   .settle ⟨2, .fetchSecurityServerVersion⟩ (some ()), .settle ⟨3, .fetchUserData⟩ none]

theorem reachable_lateResponsesAfterClearAuth :
    Reachable EnabledTimely (initial.run lateResponsesAfterClearAuth) :=
  Reachable.initial.run ⟨by decide, by decide, by decide, by decide, by decide, by decide,
    by decide, by decide, by decide, trivial⟩

theorem loggedOut_holds_no_user_data_after_clearAuth :
    let page := initial.run lateResponsesAfterClearAuth
    Reachable EnabledTimely page ∧ page.state.authenticated = false ∧
      page.state.permissions = [] ∧ page.state.username = "" ∧
      page.state.currentSecurityServer = none ∧ ∀ perm, page.state.hasPermission perm = false :=
  ⟨reachable_lateResponsesAfterClearAuth, rfl,
    loggedOut_holds_no_user_data reachable_lateResponsesAfterClearAuth rfl⟩

/-- A `/user` response that arrives after `clearAuth` writes its user into the logged-out
session: nothing discards it. -/
theorem late_user_response_after_clearAuth :
    let page := (initial : Page Unit Unit).run
      [.dispatch (.login "admin" "secret"),
       .settle ⟨0, .login (loginData "admin" "secret")⟩ (some ()),
       .dispatch .fetchUserData, .dispatch .clearAuth,
       .settle ⟨1, .fetchUserData⟩ (some ⟨"admin", [Permissions.viewClients]⟩)]
    Reachable Enabled page ∧ page.state.authenticated = false ∧
      page.state.hasPermission Permissions.viewClients = true := by
  refine ⟨Reachable.initial.run ⟨?_, ?_, ?_, ?_, ?_, trivial⟩, ?_, ?_⟩ <;> decide

/-- In runs where every response that writes user data arrives while the user is logged in,
a logged-out user is shown the ungated settings tab only. -/
theorem loggedOut_sees_only_settings {page : Page SecurityServer Version}
    (h : Reachable EnabledTimely page) (hauth : page.state.authenticated = false) :
    page.state.getAllowedTabs mainTabs =
      [⟨RouteName.systemParameters, "settings", "tab.main.settings", none⟩] := by
  have hp := (loggedOutEmpty_of_reachable h hauth).1
  rw [UserState.getAllowedTabs_mainTabs]
  simp [UserState.filterAllowedTabs, mainTabs, hp]

theorem loggedOut_sees_only_settings_after_clearAuth :
    Reachable EnabledTimely (initial.run lateResponsesAfterClearAuth) ∧
      (initial.run lateResponsesAfterClearAuth).state.authenticated = false ∧
      (initial.run lateResponsesAfterClearAuth).state.getAllowedTabs mainTabs =
        [⟨RouteName.systemParameters, "settings", "tab.main.settings", none⟩] :=
  ⟨reachable_lateResponsesAfterClearAuth, rfl,
    loggedOut_sees_only_settings reachable_lateResponsesAfterClearAuth rfl⟩

/-- `logout` and `clearAuth` are dispatched only while no fetch is in flight, as the e2e
tests do by waiting for the page to settle. -/
def Quiescent (page : Page SecurityServer Version) : Event SecurityServer Version → Prop
  | .dispatch a => a.clearsAuth = true → ∀ c ∈ page.inFlight, c.request.isFetch = false
  | .settle _ _ => True

def EnabledQuiescent (page : Page SecurityServer Version) (e : Event SecurityServer Version) :
    Prop :=
  page.Enabled e ∧ page.Quiescent e

instance (page : Page SecurityServer Version) (e : Event SecurityServer Version) :
    Decidable (page.EnabledQuiescent e) :=
  match e with
  | .dispatch _ => inferInstanceAs (Decidable (_ ∧ (_ → _)))
  | .settle _ _ => inferInstanceAs (Decidable (_ ∧ True))

/-- A logged-out page holds no user data and waits for no fetch. -/
def SettledLoggedOut (page : Page SecurityServer Version) : Prop :=
  LoggedOutEmpty page.state ∧
    (page.state.authenticated = false → ∀ c ∈ page.inFlight, c.request.isFetch = false)

theorem authenticated_settle {page : Page SecurityServer Version} {c : Call}
    (hr : c.request ≠ .logout) (h : page.state.authenticated = true)
    (res : Option (c.request.Body SecurityServer Version)) :
    (page.settle c res).state.authenticated = true := by
  simp only [settle, if_neg hr]
  exact authenticated_commitAll_commits h _ _

theorem settledLoggedOut_next {page : Page SecurityServer Version} (h : SettledLoggedOut page)
    {e : Event SecurityServer Version} (he : page.Enabled e) (hq : page.Quiescent e) :
    SettledLoggedOut (page.next e) := by
  cases e with
  | dispatch a =>
    refine ⟨loggedOutEmpty_dispatch h.1 a, fun hauth c hc => ?_⟩
    have hauth : a.clearsAuth = true ∨ page.state.authenticated = false := by
      rw [next, dispatch_state] at hauth
      split_ifs at hauth with hca
      exacts [.inl hca, .inr hauth]
    rcases mem_dispatch_inFlight hc with hc | hc
    · rcases hauth with hca | hauth
      exacts [hq hca c hc, h.2 hauth c hc]
    · rw [hc]
      cases a <;> simp_all [Enabled, Action.isFetch, Action.clearsAuth]
  | settle c res =>
    by_cases hr : c.request = .logout
    · exact ⟨by simp only [next, settle, if_pos hr]; exact loggedOutEmpty_userState,
        fun _ c' hc' => by simp [next, settle, hr, initial] at hc'⟩
    cases ha : page.state.authenticated
    · have hf : c.request.isFetch = false := h.2 ha c he
      refine ⟨loggedOutEmpty_settle h.1 fun hw => ?_, fun _ c' hc' => h.2 ha c' ?_⟩
      · simp [any_writesUserData_of_not_fetch hf] at hw
      · simp only [next, settle, if_neg hr] at hc'
        exact List.mem_of_mem_erase hc'
    · have ha' := authenticated_settle hr ha res
      exact ⟨loggedOutEmpty_of_authenticated ha',
        fun h' => absurd (h'.symm.trans ha') Bool.false_ne_true⟩

theorem settledLoggedOut_of_reachable {page : Page SecurityServer Version}
    (h : Reachable EnabledQuiescent page) : SettledLoggedOut page := by
  induction h with
  | initial => exact ⟨loggedOutEmpty_userState, fun _ _ hc => by simp [initial] at hc⟩
  | step _ he ih => exact settledLoggedOut_next ih he.1 he.2

/-- When `logout` and `clearAuth` wait for every fetch to settle, a logged-out session holds
no user data, whatever order the responses come in. -/
theorem loggedOut_holds_no_user_data_of_quiescent {page : Page SecurityServer Version}
    (h : Reachable EnabledQuiescent page) (hauth : page.state.authenticated = false) :
    page.state.permissions = [] ∧ page.state.username = "" ∧
      page.state.currentSecurityServer = none :=
  (settledLoggedOut_of_reachable h).1 hauth

def clearAuthAfterLogin : List (Event Unit Unit) :=
  [.dispatch (.login "admin" "secret"), .settle ⟨0, .login (loginData "admin" "secret")⟩ (some ()),
   .dispatch .fetchUserData, .settle ⟨1, .fetchUserData⟩ (some ⟨"admin", [Permissions.viewClients]⟩),
   .dispatch .clearAuth]

theorem loggedOut_holds_no_user_data_after_settled_logout :
    Reachable EnabledQuiescent (initial.run clearAuthAfterLogin) ∧
      (initial.run clearAuthAfterLogin).state.authenticated = false ∧
      (initial.run clearAuthAfterLogin).state.permissions = [] ∧
      (initial.run clearAuthAfterLogin).state.username = "" ∧
      (initial.run clearAuthAfterLogin).state.currentSecurityServer = none :=
  have h : Reachable EnabledQuiescent (initial.run clearAuthAfterLogin) :=
    Reachable.initial.run ⟨by decide, by decide, by decide, by decide, by decide, trivial⟩
  ⟨h, rfl, loggedOut_holds_no_user_data_of_quiescent h rfl⟩

end Page
end ProxyUi.Store
