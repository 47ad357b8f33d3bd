import ProxyUi.Store.UserGetters
import ProxyUi.Store.UserActions

/-! The page as a transition system over the `user` state and the calls in flight:
dispatches and settlements interleave in any order, and nothing cancels a call. -/
namespace ProxyUi.Store

variable {SecurityServer Version : Type}

/-- A call in flight: the request an action sent, numbered by the dispatch that sent it, so
that two calls of one action stay apart. -/
structure Call where
  id : Nat
  request : Request
  deriving DecidableEq, Repr

structure Page (SecurityServer Version : Type) where
  state : UserState SecurityServer Version
  inFlight : List Call
  dispatched : Nat

/-- A step of the page: an action is dispatched, or a call in flight settles with its
response body, or is rejected (`none`). -/
inductive Event (SecurityServer Version : Type)
  | dispatch (a : Action)
  | settle (c : Call) (res : Option (c.request.Body SecurityServer Version))

namespace Page

def initial : Page SecurityServer Version := ⟨userState, [], 0⟩

/-- Dispatching an action commits its mutations and sends its request as a new call. -/
def dispatch (page : Page SecurityServer Version) (a : Action) : Page SecurityServer Version :=
  match (a.dispatch : List (Mutation SecurityServer Version) × Option Request) with
  | (ms, req) => ⟨commitAll page.state ms,
      page.inFlight ++ (req.map (Call.mk page.dispatched)).toList, page.dispatched + 1⟩

/-- A call settles and its handlers run. Once the logout call settles, `location.reload`
replaces the page, calls in flight included, by a fresh one. -/
def settle (page : Page SecurityServer Version) (c : Call)
    (res : Option (c.request.Body SecurityServer Version)) : Page SecurityServer Version :=
  if c.request = .logout then initial
  else ⟨commitAll page.state (c.request.commits res), page.inFlight.erase c, page.dispatched⟩

def next (page : Page SecurityServer Version) :
    Event SecurityServer Version → Page SecurityServer Version
  | .dispatch a => page.dispatch a
  | .settle c res => page.settle c res

/-- The callers' side: the post-login flow dispatches a fetch only while authenticated, and
only a call in flight settles. Any other action may be dispatched at any time. -/
def Enabled (page : Page SecurityServer Version) : Event SecurityServer Version → Prop
  | .dispatch a => a.isFetch = true → page.state.authenticated = true
  | .settle c _ => c ∈ page.inFlight

instance (page : Page SecurityServer Version) (e : Event SecurityServer Version) :
    Decidable (page.Enabled e) :=
  match e with
  | .dispatch _ => inferInstanceAs (Decidable (_ → _))
  | .settle _ _ => inferInstanceAs (Decidable (_ ∈ _))

/-- Pages reachable from a fresh one by steps that `E` allows. -/
inductive Reachable (E : Page SecurityServer Version → Event SecurityServer Version → Prop) :
    Page SecurityServer Version → Prop
  | initial : Reachable E initial
  | step {page e} : Reachable E page → E page e → Reachable E (page.next e)

def run (page : Page SecurityServer Version) (es : List (Event SecurityServer Version)) :
    Page SecurityServer Version :=
  es.foldl next page

@[simp] theorem run_cons (page : Page SecurityServer Version) (e : Event SecurityServer Version)
    (es : List (Event SecurityServer Version)) : page.run (e :: es) = (page.next e).run es := rfl

def RunAllowed (E : Page SecurityServer Version → Event SecurityServer Version → Prop) :
    Page SecurityServer Version → List (Event SecurityServer Version) → Prop
  | _, [] => True
  | page, e :: es => E page e ∧ RunAllowed E (page.next e) es

theorem Reachable.run {E : Page SecurityServer Version → Event SecurityServer Version → Prop}
    {page : Page SecurityServer Version} (h : Reachable E page)
    {es : List (Event SecurityServer Version)} (hr : RunAllowed E page es) :
    Reachable E (page.run es) := by
  induction es generalizing page with
  | nil => exact h
  | cons e es ih => exact ih (h.step hr.1) hr.2

theorem dispatch_state (page : Page SecurityServer Version) (a : Action) :
    (page.dispatch a).state = if a.clearsAuth then page.state.clearAuthData else page.state := by
  cases a <;> rfl

theorem mem_dispatch_inFlight {page : Page SecurityServer Version} {a : Action} {c : Call}
    (h : c ∈ (page.dispatch a).inFlight) : c ∈ page.inFlight ∨ c.request.isFetch = a.isFetch := by
  cases a <;> simp [dispatch, Action.dispatch] at h <;>
    first | exact .inl h | (rcases h with h | rfl; exacts [.inl h, .inr rfl])

/-- A settlement other than the reloading logout leaves every field its request does not
write as it was. -/
theorem settle_agreeOn {c : Call} {f : Field} (hr : c.request ≠ .logout)
    (hf : f ∉ c.request.writes) (page : Page SecurityServer Version)
    (res : Option (c.request.Body SecurityServer Version)) :
    (page.settle c res).state.AgreeOn page.state f := by
  simp only [settle, if_neg hr]
  exact commitAll_agreeOn (fun m hm hfm => hf (Request.writes_of_mem_commits hm f hfm)) _

theorem settle_user_keeps_current_server :
    (⟨0, .fetchUserData⟩ : Call).request ≠ .logout ∧
      Field.currentSecurityServer ∉ (⟨0, .fetchUserData⟩ : Call).request.writes ∧
      ((⟨userState.authUser, [⟨0, .fetchUserData⟩], 1⟩ : Page String Unit).settle
        ⟨0, .fetchUserData⟩ (some ⟨"admin", ["VIEW_KEYS"]⟩)).state.AgreeOn userState.authUser
        .currentSecurityServer :=
  ⟨by decide, by decide, settle_agreeOn (by decide) (by decide) _ _⟩

/-- Only a successful login response turns `authenticated` on. -/
theorem authenticated_of_next {page : Page SecurityServer Version}
    {e : Event SecurityServer Version} (h₀ : page.state.authenticated = false)
    (h₁ : (page.next e).state.authenticated = true) :
    ∃ id data, e = .settle ⟨id, .login data⟩ (some ()) := by
  cases e with
  | dispatch a => cases a <;> simp_all [next, dispatch, Action.dispatch]
  | settle c res =>
    obtain ⟨id, r⟩ := c
    cases r with
    | login data =>
      cases res with
      | none => simp_all [next, settle, Request.commits, Request.settle]
      | some u => exact ⟨id, data, rfl⟩
    | logout => simp [next, settle, initial, userState] at h₁
    | _ =>
      have hf : (page.next (.settle _ res)).state.AgreeOn page.state .authenticated :=
        settle_agreeOn (by simp) (by simp [Request.writes]) page res
      simp_all [UserState.AgreeOn]

theorem authenticated_by_login_response :
    (⟨userState, [⟨0, .login (loginData "admin" "secret")⟩], 1⟩ : Page Unit Unit).state.authenticated =
        false ∧
      ((⟨userState, [⟨0, .login (loginData "admin" "secret")⟩], 1⟩ : Page Unit Unit).next
        (.settle ⟨0, .login (loginData "admin" "secret")⟩ (some ()))).state.authenticated = true ∧
      ∃ id data, (.settle ⟨0, .login (loginData "admin" "secret")⟩ (some ()) : Event Unit Unit) =
        .settle ⟨id, .login data⟩ (some ()) :=
  ⟨rfl, rfl, @authenticated_of_next Unit Unit
    ⟨userState, [⟨0, .login (loginData "admin" "secret")⟩], 1⟩
    (.settle ⟨0, .login (loginData "admin" "secret")⟩ (some ())) rfl rfl⟩

/-- Settlements of two calls whose requests write disjoint fields, neither the reloading
logout, commute: their responses may arrive in either order. -/
theorem settle_comm {c₁ c₂ : Call} (h₁ : c₁.request ≠ .logout) (h₂ : c₂.request ≠ .logout)
    (hd : ∀ f ∈ c₁.request.writes, f ∉ c₂.request.writes) (page : Page SecurityServer Version)
    (res₁ : Option (c₁.request.Body SecurityServer Version))
    (res₂ : Option (c₂.request.Body SecurityServer Version)) :
    (page.settle c₁ res₁).settle c₂ res₂ = (page.settle c₂ res₂).settle c₁ res₁ := by
  simp only [settle, if_neg h₁, if_neg h₂, List.erase_comm c₁ c₂]
  rw [commitAll_comm (Request.commits_comm hd res₁ res₂)]

theorem settle_comm_user_and_version :
    let page : Page Unit String :=
      ⟨userState.authUser, [⟨0, .fetchUserData⟩, ⟨1, .fetchSecurityServerVersion⟩], 2⟩
    (⟨0, .fetchUserData⟩ : Call).request ≠ .logout ∧
      (⟨1, .fetchSecurityServerVersion⟩ : Call).request ≠ .logout ∧
      (∀ f ∈ (⟨0, .fetchUserData⟩ : Call).request.writes,
        f ∉ (⟨1, .fetchSecurityServerVersion⟩ : Call).request.writes) ∧
      (page.settle ⟨0, .fetchUserData⟩ (some ⟨"admin", ["VIEW_KEYS"]⟩)).settle
          ⟨1, .fetchSecurityServerVersion⟩ (some "7.0.0") =
        (page.settle ⟨1, .fetchSecurityServerVersion⟩ (some "7.0.0")).settle ⟨0, .fetchUserData⟩
          (some ⟨"admin", ["VIEW_KEYS"]⟩) :=
  ⟨by decide, by decide, by decide, settle_comm (by decide) (by decide) (by decide) _ _ _⟩

def Independent : Event SecurityServer Version → Event SecurityServer Version → Prop
  | .settle c₁ _, .settle c₂ _ => c₁.request ≠ .logout ∧ c₂.request ≠ .logout ∧
      ∀ f ∈ c₁.request.writes, f ∉ c₂.request.writes
  | _, _ => False

instance (e₁ e₂ : Event SecurityServer Version) : Decidable (Independent e₁ e₂) :=
  match e₁, e₂ with
  | .settle _ _, .settle _ _ => inferInstanceAs (Decidable (_ ∧ _ ∧ ∀ f ∈ _, f ∉ _))
  | .dispatch _, _ => inferInstanceAs (Decidable False)
  | .settle _ _, .dispatch _ => inferInstanceAs (Decidable False)

theorem Independent.symm {e₁ e₂ : Event SecurityServer Version} (h : Independent e₁ e₂) :
    Independent e₂ e₁ := by
  cases e₁ <;> cases e₂ <;> simp only [Independent] at h ⊢
  exact ⟨h.2.1, h.1, fun f hf₂ hf₁ => h.2.2 f hf₁ hf₂⟩

theorem next_comm {e₁ e₂ : Event SecurityServer Version} (h : Independent e₁ e₂)
    (page : Page SecurityServer Version) : (page.next e₁).next e₂ = (page.next e₂).next e₁ := by
  cases e₁ <;> cases e₂ <;> simp only [Independent] at h
  exact settle_comm h.1 h.2.1 h.2.2 page _ _

/-- Responses to calls that write disjoint fields, logout's excepted, may arrive in any order:
every reordering of their settlements ends in the same page. -/
theorem run_perm {es es' : List (Event SecurityServer Version)} (hp : es.Perm es')
    (h : es.Pairwise Independent) (page : Page SecurityServer Version) :
    page.run es = page.run es' := by
  induction hp generalizing page with
  | nil => rfl
  | cons e _ ih => exact ih (List.pairwise_cons.mp h).2 _
  | swap e₁ e₂ es =>
    rw [run_cons, run_cons, next_comm ((List.pairwise_cons.mp h).1 e₁ (.head _))]
    rfl
  | trans h₁₂ _ ih₁ ih₂ => exact (ih₁ h _).trans (ih₂ (h₁₂.pairwise h Independent.symm) _)

theorem run_perm_three_fetches :
    let es : List (Event Unit String) :=
      [.settle ⟨0, .fetchUserData⟩ (some ⟨"admin", ["VIEW_KEYS"]⟩),
       .settle ⟨1, .fetchCurrentSecurityServer⟩ (some (some [()])),
       .settle ⟨2, .fetchSecurityServerVersion⟩ (some "7.0.0")]
    let es' : List (Event Unit String) :=
      [.settle ⟨2, .fetchSecurityServerVersion⟩ (some "7.0.0"),
       .settle ⟨0, .fetchUserData⟩ (some ⟨"admin", ["VIEW_KEYS"]⟩),
       .settle ⟨1, .fetchCurrentSecurityServer⟩ (some (some [()]))]
    let page : Page Unit String := ⟨userState.authUser,
      [⟨0, .fetchUserData⟩, ⟨1, .fetchCurrentSecurityServer⟩, ⟨2, .fetchSecurityServerVersion⟩], 3⟩
    es.Perm es' ∧ es.Pairwise Independent ∧ page.run es = page.run es' := by
  intro es es' page
  have hp : es.Perm es' := .trans (.cons _ (.swap _ _ _)) (.swap _ _ _)
  have hi : es.Pairwise Independent := by decide
  exact ⟨hp, hi, run_perm hp hi page⟩

end Page

def UserState.user (state : UserState SecurityServer Version) : User :=
  ⟨state.username, state.permissions⟩

/-- The user data an event writes, if any: a `/user` response writes its own, and `logout`,
`clearAuth` and the reload after logout's call clear it. -/
def Event.userWrite : Event SecurityServer Version → Option User
  | .dispatch a => if a.clearsAuth then some ⟨"", []⟩ else none
  | .settle ⟨_, .logout⟩ _ => some ⟨"", []⟩
  | .settle ⟨_, .fetchUserData⟩ (some user) => some user
  | .settle _ _ => none

namespace Page

theorem user_next (page : Page SecurityServer Version) (e : Event SecurityServer Version) :
    (page.next e).state.user = e.userWrite.getD page.state.user := by
  cases e with
  | dispatch a =>
    simp only [next, dispatch_state, Event.userWrite]
    split <;> rfl
  | settle c res =>
    obtain ⟨id, r⟩ := c
    by_cases hr : r = .logout
    · subst hr
      rfl
    cases r with
    | logout => exact absurd rfl hr
    | fetchUserData =>
      rcases res with _ | ⟨_, _⟩ <;>
        simp [next, settle, Request.commits, Request.settle, Event.userWrite, UserState.user]
    | _ =>
      have hu := @settle_agreeOn SecurityServer Version ⟨id, _⟩ .username hr
        (by simp [Request.writes])
      have hp := @settle_agreeOn SecurityServer Version ⟨id, _⟩ .permissions hr
        (by simp [Request.writes])
      simp only [next, Event.userWrite, Option.getD_none, UserState.user]
      rw [hu page res, hp page res]

/-- The user data after any run is what the run's last event writing it wrote, or the page's
own when none does. -/
theorem user_run (page : Page SecurityServer Version) (es : List (Event SecurityServer Version)) :
    (page.run es).state.user = ((es.filterMap Event.userWrite).getLast?).getD page.state.user := by
  induction es generalizing page with
  | nil => rfl
  | cons e es ih =>
    rw [run_cons, ih, user_next]
    cases hw : e.userWrite with
    | none => simp [hw]
    | some u =>
      cases ht : (es.filterMap Event.userWrite).getLast? <;> simp [hw, List.getLast?_cons, ht]

end Page
end ProxyUi.Store
