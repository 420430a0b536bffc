import NodeAtlas.Operations.StateMachine
import NodeAtlas.Operations.Races
import NodeAtlas.Operations.Table
import NodeAtlas.Jobs.Leases
import NodeAtlas.Jobs.Table
import NodeAtlas.Jobs.Fleet
import NodeAtlas.Jobs.Fencing
import NodeAtlas.Jobs.Attempts
import NodeAtlas.Jobs.Loop
import NodeAtlas.Jobs.Messages
import NodeAtlas.Connections.Combinations
import NodeAtlas.Backup.Service
import NodeAtlas.Power.Process
import NodeAtlas.Power.Audit
import NodeAtlas.Power.Effects
import NodeAtlas.Power.History
import NodeAtlas.Power.Idempotency
import NodeAtlas.Power.Endings
import NodeAtlas.Power.Restored
import NodeAtlas.Power.Checked
import NodeAtlas.Power.Success
import NodeAtlas.Power.Writes
import NodeAtlas.Power.Announcements
import NodeAtlas.Inventory.Exactness
import NodeAtlas.Auth.Lifetime
import NodeAtlas.Auth.Guards
import NodeAtlas.Auth.Process
import NodeAtlas.Auth.Administrator
import NodeAtlas.Auth.Revocation
import NodeAtlas.Auth.Browser
import NodeAtlas.Auth.Origin
import NodeAtlas.URL.Roundtrip
import NodeAtlas.Network.Confinement
import NodeAtlas.Console.Targets
import NodeAtlas.Console.Links
import NodeAtlas.Inventory.Replacement
import NodeAtlas.Backup.Files
import NodeAtlas.Interleaving.Sequential
import NodeAtlas.Network.Embeddings
import NodeAtlas.Events
import NodeAtlas.Events.Stream
import NodeAtlas.Migrations
import NodeAtlas.Inventory.Search
import NodeAtlas.Adapters.Portals
import NodeAtlas.Adapters.Traversal
import NodeAtlas.Timestamps
import NodeAtlas.JSON.Decode
import NodeAtlas.Connections.Atomicity
import NodeAtlas.Adapters.Listing
import NodeAtlas.Adapters.Mock
import NodeAtlas.Adapters.VNC
import NodeAtlas.Adapters.VNCUp
import NodeAtlas.Console.Idle
import NodeAtlas.Console.Pipes
import NodeAtlas.Auth.Password
import NodeAtlas.Network.AllowLists
import NodeAtlas.Config.Load
import NodeAtlas.HTTPAPI
import NodeAtlas.Backup.Restoration
import NodeAtlas.JSON.Roundtrip
import NodeAtlas.Backup.Encoding
import NodeAtlas.Backup.Contents
import NodeAtlas.Backup.Roundtrip
import NodeAtlas.Backup.Creation
import NodeAtlas.Backup.Directory
