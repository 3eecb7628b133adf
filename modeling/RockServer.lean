import RockServer.SyncConvergence
import RockServer.ClockSkew
import RockServer.TombstoneRetention
import RockServer.QuietSync
import RockServer.ReplicaSync
import RockServer.HubAgreement
import RockServer.StreamSecrecy
import RockServer.CollectionBounds
import RockServer.PresenceHistory
import RockServer.SessionScopes
import RockServer.PresenceAgreement
import RockServer.FactWriters
import RockServer.EntityResends
import RockServer.GenerationHandover
import RockServer.SessionRotation
import RockServer.RateWindows
import RockServer.LoginLockout
import RockServer.BrowserSessionCap
import RockServer.ChallengeUse
import RockServer.PairingStates
import RockServer.AccountRemoval
import RockServer.CatalogImporter
import RockServer.DeviceCatalog
import RockServer.BackfillCoverage
import RockServer.SearchSlices
import RockServer.CommandOwnership
import RockServer.StreamGate
import RockServer.AdmissionControl
import RockServer.IconJobs
import RockServer.IconRefresh
import RockServer.MobileRelease
import RockServer.VolumeBounds
import RockServer.SensorGrid
import RockServer.ScoreUnit
import RockServer.IcyPump
import RockServer.RevisionColumns
import RockServer.TitleConvergence
import RockServer.RevocationFinality
import RockServer.IssuedSessions
import RockServer.BoundedBodies
import RockServer.GenreWalks
import RockServer.CatalogDocuments
import RockServer.AdminSearch
import RockServer.VoiceTranscripts
import RockServer.SyncReplays
import RockServer.CountryFilters
import RockServer.IconDeclarations
import RockServer.DirectoryFrames
import RockServer.DirectoryGets
import RockServer.VoiceCalls
