import NetworkPortal.Main
import NetworkPortal.Portal.Basic
import NetworkPortal.Proofs.Html.Skeleton
import NetworkPortal.Proofs.Route.Reachable
import NetworkPortal.Proofs.Route.Registration
import NetworkPortal.Proofs.Route.Router
import NetworkPortal.Proofs.Settings.Endpoints
import NetworkPortal.Proofs.Settings.Host
import NetworkPortal.Proofs.Page.Skeleton
import NetworkPortal.Proofs.Backend.Fetch
import NetworkPortal.Proofs.View.Frame
import NetworkPortal.Proofs.View.Traffic
import NetworkPortal.Proofs.Portal.Detail
import NetworkPortal.Proofs.Portal.Dispatch
import NetworkPortal.Proofs.Portal.Build
import NetworkPortal.Proofs.Portal.Traffic
import NetworkPortal.Proofs.Route.Link
import NetworkPortal.Proofs.Portal.Links
import NetworkPortal.Proofs.Portal.Paths
import NetworkPortal.Proofs.Html.Escape
import NetworkPortal.Proofs.Page.Navigation
import NetworkPortal.Proofs.Portal.MenuLinks
import NetworkPortal.Proofs.Plugin.Component
import NetworkPortal.Proofs.Portal.Loading
import NetworkPortal.Proofs.Portal.History
import NetworkPortal.Proofs.Page.Tabs
import NetworkPortal.Proofs.View.Tabs
import NetworkPortal.Proofs.Backend.Local
import NetworkPortal.Proofs.Settings.Slashes
import NetworkPortal.Proofs.View.Menu
import NetworkPortal.Proofs.Portal.Menu
import NetworkPortal.Proofs.Command.Options
import NetworkPortal.Proofs.Settings.Effective
import NetworkPortal.Proofs.Command.Serve
import NetworkPortal.Proofs.Keyed
import NetworkPortal.Proofs.Storage.Place
import NetworkPortal.Proofs.Plugin.Discovery
import NetworkPortal.Proofs.View.Status
import NetworkPortal.Proofs.Portal.Status
import NetworkPortal.Proofs.Html.Entity
import NetworkPortal.Proofs.Html.Parts
import NetworkPortal.Proofs.Page.Reading
import NetworkPortal.Proofs.Toml.Document
import NetworkPortal.Proofs.Settings.Document
import NetworkPortal.Proofs.Command.Config
import NetworkPortal.Proofs.Resource.Rows
import NetworkPortal.Proofs.Page.Rows
import NetworkPortal.Proofs.Plugin.Naming
import NetworkPortal.Proofs.Menu.Tree
import NetworkPortal.Proofs.View.Title
import NetworkPortal.Proofs.Field.Blank
import NetworkPortal.Proofs.Plugin.Confined
import NetworkPortal.Proofs.Time.Age
import NetworkPortal.Proofs.Http.Origin
import NetworkPortal.Proofs.Portal.Origin
import NetworkPortal.Proofs.View.Listing
import NetworkPortal.Proofs.Field.Leaves
import NetworkPortal.Proofs.Menu.Keys
import NetworkPortal.Proofs.Text.Label
