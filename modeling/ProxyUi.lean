import ProxyUi.Global
import ProxyUi.Store.UserState
import ProxyUi.Store.UserGetters
import ProxyUi.Store.UserActions
import ProxyUi.Store.Page
import ProxyUi.Store.Session
import ProxyUi.Store.Lifecycle
