import Mathlib.Data.List.Basic
import Mathlib.Data.String.Basic

/-! Route names, permission strings and the main navigation tabs of `global.ts`. -/
namespace ProxyUi

-- The `RouteName` members that `mainTabs` targets.
namespace RouteName
def clients : String := "clients"
def signAndAuthKeys : String := "sign-and-auth-keys"
def diagnostics : String := "diagnostics"
def systemParameters : String := "system-parameters"
end RouteName

-- The `Permissions` members that `mainTabs` names.
namespace Permissions
def viewClients : String := "VIEW_CLIENTS"
def viewKeys : String := "VIEW_KEYS"
def diagnostics : String := "DIAGNOSTICS"
end Permissions

/-- A tab descriptor: the route name of its `to` location (`to.name`), its key, its i18n name and an
optional gating permission (`undefined` is `none`). -/
structure Tab where
  toName : String
  key : String
  name : String
  permission : Option String
  deriving DecidableEq, Repr

/-- The four top-level tabs, in display order; the settings tab is not gated. -/
def mainTabs : List Tab :=
  [ ⟨RouteName.clients, "clients", "tab.main.clients", some Permissions.viewClients⟩,
    ⟨RouteName.signAndAuthKeys, "keys", "tab.main.keys", some Permissions.viewKeys⟩,
    ⟨RouteName.diagnostics, "diagnostics", "tab.main.diagnostics", some Permissions.diagnostics⟩,
    ⟨RouteName.systemParameters, "settings", "tab.main.settings", none⟩ ]

end ProxyUi
