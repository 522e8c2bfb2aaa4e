import AapGateway.Models.Defs
import AapGateway.Models.Database
import AapGateway.Xds.RouteConfig
import AapGateway.Proxy.ExternalAuth
import AapGateway.Proxy.PathRewrite
import AapGateway.Xds.ClusterConfig
import AapGateway.Xds.ClusterNames
import AapGateway.Foundations.CacheAside
import AapGateway.Xds.Cache
import AapGateway.Xds.Interleaving
import AapGateway.Foundations.Shuffle
import AapGateway.Jwt.Freshness
import AapGateway.Foundations.Keyset
import AapGateway.Migration.LinkAccount
import AapGateway.Migration.RoleAssignments
import AapGateway.Migration.Completeness
import AapGateway.Migration.CacheRebuild
import AapGateway.Foundations.Paging
import AapGateway.Migration.SuperuserSync
import AapGateway.Foundations.Json
import AapGateway.Foundations.JsonDict
import AapGateway.Foundations.JsonReading
import AapGateway.Foundations.Base64
import AapGateway.SecretKey.Encryption
import AapGateway.SecretKey.Rotation
import AapGateway.SecretKey.Columns
import AapGateway.SecretKey.Configurations
import AapGateway.SecretKey.NothingLost
import AapGateway.Foundations.Drain
import AapGateway.Migration.BulkUpdate
import AapGateway.Migration.ResourceMigration
import AapGateway.Migration.ResourcePages
import AapGateway.Migration.ResourceTermination
import AapGateway.Migration.CrashRestart
import AapGateway.Foundations.Retention
import AapGateway.Sessions.Tracking
import AapGateway.Sessions.ConcurrentLogins
import AapGateway.Sessions.Limit
import AapGateway.Sessions.LoginRace
import AapGateway.Users.ReverseSync
import AapGateway.Users.EmailPolicy
import AapGateway.Users.AssociatedAuthenticators
import AapGateway.Users.AssociationSafety
import AapGateway.Routes.Requests
import AapGateway.Xds.References
import AapGateway.Routes.AuthFlags
import AapGateway.Routes.ReservedPrefixes
import AapGateway.Foundations.Priority
import AapGateway.Routes.Precedence
import AapGateway.Routes.FirstMatch
import AapGateway.Routes.OneServiceRoute
import AapGateway.Migration.UserMerge
import AapGateway.Foundations.Grouping
import AapGateway.Foundations.Separated
import AapGateway.Routes.NodeTags
import AapGateway.Migration.AlreadySynced
import AapGateway.Migration.AssignmentPages
import AapGateway.Migration.Correlation
import AapGateway.Migration.MergeGroups
import AapGateway.Foundations.LastWrite
import AapGateway.Users.RoleSync
import AapGateway.Foundations.Replace
import AapGateway.Foundations.ReplaceUpTo
import AapGateway.Foundations.LuaPattern
import AapGateway.Foundations.Uuid
import AapGateway.Foundations.JsonStrings
import AapGateway.Foundations.PythonText
import AapGateway.Foundations.UrlParse
import AapGateway.ServiceToken.PopulateServiceId
import AapGateway.ServiceToken.Validation
import AapGateway.Preferences.Serializers
import AapGateway.Preferences.CsrfList
import AapGateway.Preferences.Store
import AapGateway.Preferences.Settings
import AapGateway.Preferences.Transparency
import AapGateway.Preferences.Sections
import AapGateway.Preferences.Revert
import AapGateway.Preferences.Corruption
import AapGateway.Roles.PermissionSync
import AapGateway.Roles.SystemRoles
import AapGateway.Jwt.Invalidation
import AapGateway.Users.Passwords
import AapGateway.Users.UserSerializer
import AapGateway.Users.UserUpdate
import AapGateway.Foundations.UniqueWrites
import AapGateway.Users.UserPlan
import AapGateway.Users.AssociatedEntries
import AapGateway.Users.RoundTrip
import AapGateway.Users.ValidationTotal
import AapGateway.Users.LocalIdentity
import AapGateway.Users.UidCollisions
import AapGateway.Users.Resubmission
import AapGateway.Users.FieldPrecedence
import AapGateway.Preferences.ReadBack
import AapGateway.Proxy.QueryRewrite
import AapGateway.Routes.PluginPaths
import AapGateway.Foundations.Aggregate
import AapGateway.Xds.HealthChecks
import AapGateway.Preferences.AtomicUpdate
import AapGateway.StatusPage.Checks
import AapGateway.StatusPage.Aggregation
import AapGateway.StatusPage.Response
import AapGateway.ServiceToken.Cooldown
import AapGateway.ServiceKeys.Generation
import AapGateway.ServiceKeys.ActiveLimit
import AapGateway.Preferences.CsrfOrigins
import AapGateway.SecretKey.Pagination
import AapGateway.Migration.BulkRequests
import AapGateway.Foundations.Canonical
import AapGateway.Oidc.RoleClaims
import AapGateway.Settings.CustomEnvvars
import AapGateway.Tools.MigrationHistory
import AapGateway.Tools.PullRequests
import AapGateway.Foundations.TimedCache
import AapGateway.ServiceToken.MigrationLock
import AapGateway.ServiceToken.Authentication
import AapGateway.Oidc.WorkloadTokens
import AapGateway.Routes.ServiceRequests
import AapGateway.Routes.ProxiedWrites
import AapGateway.Foundations.Replica
import AapGateway.Resources.AllServices
import AapGateway.Resources.ServiceSync
import AapGateway.Proxy.DataPlane
import AapGateway.Foundations.Checks
import AapGateway.Foundations.Effects
import AapGateway.Tools.InventoryFormat
import AapGateway.Tools.UpgradeRunner
import AapGateway.Tools.UpgradeSafety
