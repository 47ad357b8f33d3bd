import ProxyUi.Store.UserState

/-! The getters of the `user` module: the permission test, the tab filter and the landing tab. -/
namespace ProxyUi.Store

variable {SecurityServer Version : Type}

namespace UserState

def isAuthenticated (state : UserState SecurityServer Version) : Bool :=
  state.authenticated

/-- `permissions.includes(perm)`. -/
def hasPermission (state : UserState SecurityServer Version) (perm : String) : Bool :=
  state.permissions.contains perm

/-- Keeps a tab when `!tab.permission` holds, that is when its permission is absent or the
empty string, or when the user holds the permission it names. -/
def getAllowedTabs (state : UserState SecurityServer Version) (tabs : List Tab) : List Tab :=
  tabs.filter fun tab =>
    match tab.permission with
    | none => true
    | some perm => perm.isEmpty || state.hasPermission perm

/-- The first allowed main tab; `undefined` when none is allowed. -/
def firstAllowedTab (state : UserState SecurityServer Version) : Option Tab :=
  (state.getAllowedTabs mainTabs).head?

/-- The tab filter in the words of the specification: a tab is kept iff it names no
permission or the user holds the one it names. -/
def filterAllowedTabs (state : UserState SecurityServer Version) (tabs : List Tab) : List Tab :=
  tabs.filter fun tab => tab.permission.all fun perm => decide (perm ∈ state.permissions)

@[simp] theorem hasPermission_iff (state : UserState SecurityServer Version) (perm : String) :
    state.hasPermission perm = true ↔ perm ∈ state.permissions := by
  simp [hasPermission]

theorem getAllowedTabs_eq_filter (state : UserState SecurityServer Version) (tabs : List Tab) :
    state.getAllowedTabs tabs = tabs.filter fun tab => decide (tab.permission = none ∨
      tab.permission = some "" ∨ ∃ perm ∈ state.permissions, tab.permission = some perm) := by
  refine List.filter_congr fun tab _ => ?_
  rcases tab with ⟨_, _, _, _ | perm⟩
  · rfl
  · rw [Bool.eq_iff_iff]; simp [String.isEmpty_iff]

theorem mem_getAllowedTabs {state : UserState SecurityServer Version} {tabs : List Tab}
    {tab : Tab} :
    tab ∈ state.getAllowedTabs tabs ↔ tab ∈ tabs ∧ (tab.permission = none ∨
      tab.permission = some "" ∨ ∃ perm ∈ state.permissions, tab.permission = some perm) := by
  simp only [getAllowedTabs_eq_filter, List.mem_filter, decide_eq_true_eq]

theorem perm_mem_of_mem_getAllowedTabs {state : UserState SecurityServer Version} {tabs : List Tab}
    {tab : Tab} {perm : String} (h : tab ∈ state.getAllowedTabs tabs)
    (hp : tab.permission = some perm) (hne : perm ≠ "") : perm ∈ state.permissions := by
  obtain ⟨-, h | h | ⟨p, hp', h⟩⟩ := mem_getAllowedTabs.mp h <;> simp_all

theorem getAllowedTabs_sublist_of_subset {state state' : UserState SecurityServer Version}
    (h : state.permissions ⊆ state'.permissions) (tabs : List Tab) :
    (state.getAllowedTabs tabs).Sublist (state'.getAllowedTabs tabs) := by
  rw [getAllowedTabs_eq_filter, getAllowedTabs_eq_filter]
  refine List.monotone_filter_right tabs fun tab => ?_
  simp only [decide_eq_true_eq]
  rintro (h' | h' | ⟨perm, hp, h'⟩)
  · exact .inl h'
  · exact .inr (.inl h')
  · exact .inr (.inr ⟨perm, h hp, h'⟩)

/-- Order and multiplicity are kept; a tab naming a non-blank permission is shown only to
users holding it; holding more permissions never hides a tab. -/
theorem getAllowedTabs_blank_or_held (state : UserState SecurityServer Version) (tabs : List Tab) :
    state.getAllowedTabs tabs = tabs.filter (fun tab => decide (tab.permission = none ∨
      tab.permission = some "" ∨ ∃ perm ∈ state.permissions, tab.permission = some perm)) ∧
    (∀ tab ∈ state.getAllowedTabs tabs, ∀ perm, tab.permission = some perm → perm ≠ "" →
      perm ∈ state.permissions) ∧
    ∀ state' : UserState SecurityServer Version, state.permissions ⊆ state'.permissions →
      (state.getAllowedTabs tabs).Sublist (state'.getAllowedTabs tabs) :=
  ⟨state.getAllowedTabs_eq_filter tabs, fun _ h _ hp hne => perm_mem_of_mem_getAllowedTabs h hp hne,
    fun _ h => getAllowedTabs_sublist_of_subset h tabs⟩

/-- A tab gated on the empty string passes `!tab.permission` and is shown to a user holding
no permission, where the specification's filter drops it. -/
theorem getAllowedTabs_shows_blank_permission :
    let tab : Tab := ⟨RouteName.systemParameters, "settings", "tab.main.settings", some ""⟩
    (userState : UserState Unit Unit).getAllowedTabs [tab] = [tab] ∧
      (userState : UserState Unit Unit).filterAllowedTabs [tab] = [] := by decide

theorem getAllowedTabs_eq_filterAllowedTabs (state : UserState SecurityServer Version)
    {tabs : List Tab} (h : ∀ tab ∈ tabs, tab.permission ≠ some "") :
    state.getAllowedTabs tabs = state.filterAllowedTabs tabs := by
  refine List.filter_congr fun tab htab => ?_
  rcases tab with ⟨_, _, _, _ | perm⟩
  · rfl
  · have hne : perm.isEmpty = false := Bool.eq_false_iff.mpr fun he =>
      h _ htab (by rw [(String.isEmpty_iff perm).mp he])
    simp [hne, hasPermission]

/-- No main tab has a blank permission, so on `mainTabs` the code is the specification. -/
theorem getAllowedTabs_mainTabs (state : UserState SecurityServer Version) :
    state.getAllowedTabs mainTabs = state.filterAllowedTabs mainTabs :=
  state.getAllowedTabs_eq_filterAllowedTabs (by decide)

/-- The settings tab is not gated, so every user has a landing tab. -/
theorem firstAllowedTab_isSome (state : UserState SecurityServer Version) :
    state.firstAllowedTab.isSome := by
  simp only [firstAllowedTab, getAllowedTabs, mainTabs, List.filter_cons, List.filter_nil]
  split_ifs <;> rfl

end UserState
end ProxyUi.Store
