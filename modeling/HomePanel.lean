import HomePanel.Json.Text
import HomePanel.Json.Reader
import HomePanel.Text.Blank
import HomePanel.Text.Case
import HomePanel.Template
import HomePanel.Transport.Scripted
import HomePanel.Catalog
import HomePanel.Page.Selector
import HomePanel.Css.Syntax
import HomePanel.Page.Query
import HomePanel.Device
import HomePanel.Config.Read
import HomePanel.Intent
import HomePanel.Trace
import HomePanel.Panel
import HomePanel.Url.Host
import HomePanel.Unicode.Category
import HomePanel.Unicode.Bidi
import HomePanel.Unicode.Joining
import HomePanel.Unicode.Decomposition
import HomePanel.Unicode.IdnaMapping
import HomePanel.Unicode.Normalization
import HomePanel.Url.Punycode
import HomePanel.Url.Idna
import HomePanel.Url.Basic
import HomePanel.Client
import HomePanel.Probe
import HomePanel.Main
import HomePanel.Shell
import HomePanel.Proofs.ParamMap
import HomePanel.Proofs.Url.Percent
import HomePanel.Proofs.Template
import HomePanel.Proofs.Request.Routing
import HomePanel.Proofs.Request.Outcome
import HomePanel.Proofs.Panel.Run
import HomePanel.Proofs.Panel.Dispatch
import HomePanel.Proofs.Page.Layout
import HomePanel.Proofs.Panel.Session
import HomePanel.Proofs.Page.Text
import HomePanel.Proofs.Panel.Readouts
import HomePanel.Proofs.Page.Sync
import HomePanel.Proofs.Config.BasePath
import HomePanel.Proofs.Page.Forest
import HomePanel.Proofs.FormFields
import HomePanel.Proofs.Config.BaseUrl
import HomePanel.Proofs.Page.Tree
import HomePanel.Proofs.Page.Intent
import HomePanel.Proofs.Page.ClassPath
import HomePanel.Proofs.Url.Segment
import HomePanel.Proofs.Json.Truthy
import HomePanel.Proofs.Device.Decode
import HomePanel.Proofs.Request.Message
import HomePanel.Proofs.Presenter
import HomePanel.Proofs.Css.Escape
