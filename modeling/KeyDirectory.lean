import KeyDirectory.Connection.Serving
import KeyDirectory.Key.FileLine
import KeyDirectory.Listing.PageView
import KeyDirectory.Main
import KeyDirectory.Proofs.Cache.Eviction
import KeyDirectory.Proofs.Cache.Shared
import KeyDirectory.Proofs.Cache.Sweeper
import KeyDirectory.Proofs.Connection.Delivery
import KeyDirectory.Proofs.Connection.Floor
import KeyDirectory.Proofs.Connection.Heartbeat
import KeyDirectory.Proofs.Connection.Listening
import KeyDirectory.Proofs.Key.File
import KeyDirectory.Proofs.Key.Options
import KeyDirectory.Proofs.Key.Parallel
import KeyDirectory.Proofs.Listing.KeyFile
import KeyDirectory.Proofs.Listing.Page
import KeyDirectory.Proofs.Listing.Script
import KeyDirectory.Proofs.Remote.CachedRun
import KeyDirectory.Proofs.Remote.Effects
import KeyDirectory.Proofs.Remote.Interleaving
import KeyDirectory.Proofs.Remote.Separation
import KeyDirectory.Proofs.Request.Grammar
import KeyDirectory.Proofs.Server.StaticAnswer
import KeyDirectory.Proofs.Server.Uploads
import KeyDirectory.Proofs.Source.Folder
import KeyDirectory.Proofs.Upload.Admission
import KeyDirectory.Proofs.Upload.Drawing
import KeyDirectory.Proofs.Upload.Phases
