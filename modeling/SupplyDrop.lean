import SupplyDrop.Library.Program
import SupplyDrop.Library.RowTable
import SupplyDrop.Library.Chain
import SupplyDrop.Library.Text
import SupplyDrop.Library.Calendar
import SupplyDrop.Library.Digits
import SupplyDrop.Library.Run
import SupplyDrop.Library.ReadModifyWrite
import SupplyDrop.Library.Discipline
import SupplyDrop.Library.UniqueUpdate
import SupplyDrop.Library.KeyedTable
import SupplyDrop.Store.Types
import SupplyDrop.Store.Database
import SupplyDrop.Store.Rooms
import SupplyDrop.Store.Users
import SupplyDrop.Store.Messages
import SupplyDrop.Store.Audit
import SupplyDrop.Store.Credentials
import SupplyDrop.Store.Blocks
import SupplyDrop.Mesh.SendTracker
import SupplyDrop.Mesh.Link
import SupplyDrop.Host.Types
import SupplyDrop.Host.State
import SupplyDrop.Host.Help
import SupplyDrop.Host.Parse
import SupplyDrop.Host.Format
import SupplyDrop.Host.Auth
import SupplyDrop.Host.Reading
import SupplyDrop.Host.Rooms
import SupplyDrop.Host.Compose
import SupplyDrop.Host.Admin
import SupplyDrop.Host.Moderation
import SupplyDrop.Host.Policy
import SupplyDrop.Host.Workflow
import SupplyDrop.Host.Process
import SupplyDrop.Host.Web
import SupplyDrop.Host.System
import SupplyDrop.Host.Archive
import SupplyDrop.Plugin.Types
import SupplyDrop.Plugin.Manager
import SupplyDrop.Proof.RoomWalk
import SupplyDrop.Proof.LostUpdate
import SupplyDrop.Proof.ReadState
import SupplyDrop.Proof.SendCorrelation
import SupplyDrop.Proof.AuditArchive
import SupplyDrop.Proof.Conduct.Rules
import SupplyDrop.Migrations.SystemRooms
import SupplyDrop.Migrations.Usernames
import SupplyDrop.Proof.SystemRooms
import SupplyDrop.Proof.OwnMail
import SupplyDrop.Proof.Usernames
import SupplyDrop.Proof.PluginConfig.Runs
import SupplyDrop.Proof.Restore.CrashSafety
import SupplyDrop.Proof.Restore.Together
import SupplyDrop.Proof.Supervision.Runs
import SupplyDrop.Proof.SendAccounts
import SupplyDrop.Proof.FirstUser
import SupplyDrop.Proof.ReplyAttribution
import SupplyDrop.Proof.LoginPaths
import SupplyDrop.Proof.RoomsExist.Runs
import SupplyDrop.Proof.ForcedChange
import SupplyDrop.Proof.BuiltInRooms
import SupplyDrop.Proof.AdvertCap
import SupplyDrop.Proof.MeshDedup
import SupplyDrop.Proof.TextDedup
import SupplyDrop.Proof.NodeBindings
import SupplyDrop.Proof.Stepping
import SupplyDrop.Proof.SameMessages
import SupplyDrop.Proof.NextUnread
import SupplyDrop.Proof.Suspensions
import SupplyDrop.Proof.EndReports
import SupplyDrop.Proof.ProtectionMerge
import SupplyDrop.Proof.NodeIndex
import SupplyDrop.Proof.KeySlots
import SupplyDrop.Proof.ParserAgreement
import SupplyDrop.Proof.RestoreMerge
import SupplyDrop.Proof.PopulationScans
import SupplyDrop.Proof.QueueDrain
import SupplyDrop.Proof.AdminReads
import SupplyDrop.Proof.AdminWrites.Runs
import SupplyDrop.Proof.PolicyPersisted
import SupplyDrop.Proof.GuestRoomChange
import SupplyDrop.Proof.Pagination
import SupplyDrop.Proof.PointerRepair
import SupplyDrop.Store.Invariants
import SupplyDrop.Proof.RoomOrder
import SupplyDrop.Proof.ProcessSessions
import SupplyDrop.Proof.WebAuthority
import SupplyDrop.Proof.LoginThrottle
import SupplyDrop.Host.NodeExpiry
import SupplyDrop.Proof.NodeExpiry
import SupplyDrop.Library.Listings
import SupplyDrop.Proof.BlockReport
import SupplyDrop.Mesh.Contacts
import SupplyDrop.Proof.ContactRemoval
import SupplyDrop.Library.Clip
import SupplyDrop.Proof.DraftPreview
import SupplyDrop.Proof.PayloadLimit
import SupplyDrop.Proof.RoomListing
import SupplyDrop.Library.Bytes
import SupplyDrop.Library.Framing
import SupplyDrop.Mesh.Stream
import SupplyDrop.Proof.StreamReader
import SupplyDrop.Library.Utf8
import SupplyDrop.Mesh.Companion.Client
import SupplyDrop.Proof.InboundFrames
import SupplyDrop.Proof.ContactCodec
import SupplyDrop.Library.Columns
import SupplyDrop.Host.AuditText
import SupplyDrop.Proof.AuditText
import SupplyDrop.Library.Hex
import SupplyDrop.Mesh.NodeKey
import SupplyDrop.Proof.NodeKey
import SupplyDrop.Proof.IdleTimeout.Runs
import SupplyDrop.Proof.SuspensionRaces
import SupplyDrop.Library.Recent
import SupplyDrop.Mesh.DeliveryStats
import SupplyDrop.Proof.RecentConfirmed
import SupplyDrop.Library.SwapLoop
import SupplyDrop.Mesh.OutboundStamp
import SupplyDrop.Proof.OutboundStamp
import SupplyDrop.Proof.NewUsernames
import SupplyDrop.Library.Inverse
import SupplyDrop.Transport.SessionMaps
import SupplyDrop.Proof.SessionMaps
import SupplyDrop.Mesh.Companion.Radio
import SupplyDrop.Proof.RadioSync
import SupplyDrop.Mesh.NodeName
import SupplyDrop.Proof.AdvertName
import SupplyDrop.Proof.ProtectFrame
import SupplyDrop.Proof.AutoApply
import SupplyDrop.Proof.RevertProtect
import SupplyDrop.Proof.StoredData
import SupplyDrop.Proof.LastSysop
import SupplyDrop.Proof.Drafts
import SupplyDrop.Proof.Standings
