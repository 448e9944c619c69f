import AirPaste.Server.Store
import AirPaste.Server.DeviceUpdates
import AirPaste.Server.Bootstrap
import AirPaste.Server.Pairing
import AirPaste.Server.Routes
import AirPaste.Server.Effects
import AirPaste.Server.Replay
import AirPaste.Server.TrustChain
import AirPaste.Agent.PeerGrants
import AirPaste.Agent.PeerDownload
import AirPaste.Agent.PeerClaims
import AirPaste.Agent.Containment
import AirPaste.Agent.Delivery
import AirPaste.Agent.ClipboardDesk
import AirPaste.Agent.EchoGuard
import AirPaste.Agent.PendingClip
import AirPaste.Agent.Fallback
import AirPaste.Server.Gate
import AirPaste.Crypto.Sealing
import AirPaste.Server.Clips
import AirPaste.Agent.TextClip
import AirPaste.Theory.Base64
import AirPaste.Agent.RelaySession
import AirPaste.Agent.RelayProtocol
import AirPaste.Agent.RelayDelivery
import AirPaste.Server.SimpleInbox
import AirPaste.Server.SimpleLatest
import AirPaste.Server.RelayHub
import AirPaste.Server.RelayNet
import AirPaste.Server.RelayRooms
import AirPaste.Server.RelayBudget
import AirPaste.Server.RelayPipe
import AirPaste.Server.RelayFifo
import AirPaste.Protocol.Events
import AirPaste.Theory.Broadcast
import AirPaste.Agent.Inbox
import AirPaste.Server.EventHub
import AirPaste.Agent.InboxDownloads
import AirPaste.Agent.InboxDesk
import AirPaste.Agent.Hotkey
import AirPaste.Agent.ServerEvents
import AirPaste.Server.ClipStore
import AirPaste.Server.Handlers
import AirPaste.Server.LatestClip
import AirPaste.Server.MirrorText
import AirPaste.Theory.Labelled
import AirPaste.Agent.SigningMessages
import AirPaste.Agent.SignedRequest
import AirPaste.Tray.ServerController
import AirPaste.Agent.PublishFailure
import AirPaste.Agent.EntryDownload
import AirPaste.Agent.SizeLimit
import AirPaste.Agent.StreamedBytes
import AirPaste.Agent.HotkeySpec
import AirPaste.Agent.BadKeys
import AirPaste.Agent.Lifetimes
import AirPaste.Agent.PublishWalk
import AirPaste.Agent.TextDetectors
import AirPaste.Agent.SecretsInContext
import AirPaste.Agent.SecretLines
import AirPaste.Server.BodyHash
import AirPaste.Agent.BorrowedClipboard
import AirPaste.Agent.Reconnect
import AirPaste.Tray.SendTab
import AirPaste.Agent.AgentState
import AirPaste.Tray.SavedServer
import AirPaste.Server.DeviceRows
import AirPaste.Agent.Launch
import AirPaste.Theory.Cost
import AirPaste.Tray.Launches
import AirPaste.Server.RelayedEvents
import AirPaste.System.TextNet
import AirPaste.System.TextRuns
import AirPaste.Agent.PeerRequest
import AirPaste.Server.RelayEnds
import AirPaste.Server.RelayLines
import AirPaste.Agent.RelayBooks
import AirPaste.System.RelayedTransfer
import AirPaste.System.RelayedWire
import AirPaste.System.RelayedRuns
import AirPaste.System.RelayedFiles
import AirPaste.System.RelayedProgress
import AirPaste.Agent.HotkeyListener
import AirPaste.Tray.HotkeySettings
import AirPaste.Theory.Obeys
import AirPaste.Server.Presence
import AirPaste.Server.Recency
import AirPaste.System.PresenceNet
