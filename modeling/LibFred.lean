import LibFred.Cpp.OrderedMap
import LibFred.Cpp.StdMap
import LibFred.Cpp.StdSet
import LibFred.Cpp.StdString
import LibFred.Cpp.TransformWidth
import LibFred.Db.ObjectDatabase
import LibFred.Db.Schema
import LibFred.Itemwise
import LibFred.Notifier.ChangePairs
import LibFred.Notifier.ChangesFlag
import LibFred.Notifier.Contact
import LibFred.Notifier.ContactChanges
import LibFred.Notifier.EmailAddresses
import LibFred.Notifier.EmailContent
import LibFred.Notifier.Keyset
import LibFred.Notifier.Nsset
import LibFred.Notifier.ProcessOneNotificationRequest
import LibFred.Notifier.Recipients
import LibFred.Notifier.SkippedRecipients
import LibFred.Object.Authinfo
import LibFred.Object.AuthinfoProgress
import LibFred.Object.AuthinfoRevocation
import LibFred.Object.AuthinfoUniqueness
import LibFred.Object.Bookkeeping
import LibFred.Object.ConcurrentAuthinfo
import LibFred.Object.GeneratedAuthinfoPassword
import LibFred.Object.NewVersion
import LibFred.Object.Object
import LibFred.Object.ObjectCreation
import LibFred.Object.TransferObject
import LibFred.Object.TransferOutcome
import LibFred.ObjectState.AdminBlockRestore
import LibFred.ObjectState.AdminBlockRuns
import LibFred.ObjectState.AdminObjectBlock
import LibFred.ObjectState.AdminOperations
import LibFred.ObjectState.BlockReason
import LibFred.ObjectState.ObjectStateRequest
import LibFred.ObjectState.RequestAcceptance
import LibFred.ObjectState.RequestIntervals
import LibFred.ObjectState.RequestTimes
import LibFred.ObjectState.StandardMaterialization
import LibFred.ObjectState.StateMaterialization
import LibFred.Order.Clusters
import LibFred.Order.Segment
import LibFred.Order.Sorting
import LibFred.Order.Span
import LibFred.Order.Spell
import LibFred.Order.Sweep
import LibFred.Order.Terminal
import LibFred.Overwrite
import LibFred.Poll.CreateLowCreditMessages
import LibFred.Poll.CreateStateMessages
import LibFred.Poll.CreateUpdateOperationPollMessage
import LibFred.Poll.CreditWarnings
import LibFred.Poll.StateMessages
import LibFred.Poll.UpdateRecipients
import LibFred.PublicRequest.BulkUpdate
import LibFred.PublicRequest.Cascade
import LibFred.PublicRequest.CreatePublicRequest
import LibFred.PublicRequest.GivenColumns
import LibFred.PublicRequest.Rejections
import LibFred.PublicRequest.RequestLife
import LibFred.PublicRequest.UpdateOutcome
import LibFred.PublicRequest.UpdatePublicRequest
import LibFred.PublicRequest.UpdateQuery
import LibFred.Regex
import LibFred.RegistrableObject.Contact.CancelStates
import LibFred.RegistrableObject.Contact.ContactCreation
import LibFred.RegistrableObject.Contact.ContactEnum
import LibFred.RegistrableObject.Contact.ContactLife
import LibFred.RegistrableObject.Contact.ContactRefusal
import LibFred.RegistrableObject.Contact.ContactRows
import LibFred.RegistrableObject.Contact.ContactUpdates
import LibFred.RegistrableObject.Contact.CopyContact
import LibFred.RegistrableObject.Contact.CreateContact
import LibFred.RegistrableObject.Contact.DeleteContact
import LibFred.RegistrableObject.Contact.DeletedSource
import LibFred.RegistrableObject.Contact.DiffContacts
import LibFred.RegistrableObject.Contact.DuplicateAgreement
import LibFred.RegistrableObject.Contact.InfoContact
import LibFred.RegistrableObject.Contact.InfoContactData
import LibFred.RegistrableObject.Contact.InfoContactDiff
import LibFred.RegistrableObject.Contact.LinkOwners
import LibFred.RegistrableObject.Contact.LosslessCopy
import LibFred.RegistrableObject.Contact.MergeChanges
import LibFred.RegistrableObject.Contact.MergeChecks
import LibFred.RegistrableObject.Contact.MergeContact
import LibFred.RegistrableObject.Contact.MergeContactEmailNotificationData
import LibFred.RegistrableObject.Contact.MergeContactOutput
import LibFred.RegistrableObject.Contact.MergeContactSelection
import LibFred.RegistrableObject.Contact.MergeDryRun
import LibFred.RegistrableObject.Contact.MergeEmails
import LibFred.RegistrableObject.Contact.MergedLinks
import LibFred.RegistrableObject.Contact.ReplacedContacts
import LibFred.RegistrableObject.Contact.SelectionAgreement
import LibFred.RegistrableObject.Contact.SelectionNarrowing
import LibFred.RegistrableObject.Contact.UpdateContact
import LibFred.RegistrableObject.Contact.UpdateErrors
import LibFred.RegistrableObject.Contact.UpdateRaises
import LibFred.RegistrableObject.Contact.Verification.CancelByVersions
import LibFred.RegistrableObject.Contact.Verification.CancelOnChange
import LibFred.RegistrableObject.Contact.Verification.CancelledRequests
import LibFred.RegistrableObject.Contact.Verification.CheckHistories
import LibFred.RegistrableObject.Contact.Verification.InfoContactCheck
import LibFred.RegistrableObject.Contact.WrittenContacts
import LibFred.RegistrableObject.ContactLists
import LibFred.RegistrableObject.DataHistory
import LibFred.RegistrableObject.DiffExactness
import LibFred.RegistrableObject.DiffMember
import LibFred.RegistrableObject.Domain.BlacklistIntervals
import LibFred.RegistrableObject.Domain.CaseBlindness
import LibFred.RegistrableObject.Domain.CheckDomain
import LibFred.RegistrableObject.Domain.CreateDomainNameBlacklistId
import LibFred.RegistrableObject.Domain.DomainLife
import LibFred.RegistrableObject.Domain.DomainName
import LibFred.RegistrableObject.Domain.DomainUpdates
import LibFred.RegistrableObject.Domain.EnumConflicts
import LibFred.RegistrableObject.Domain.HostNameGrammar
import LibFred.RegistrableObject.Domain.InfoDomainDiff
import LibFred.RegistrableObject.Domain.LetterCase
import LibFred.RegistrableObject.Domain.SetColumns
import LibFred.RegistrableObject.Domain.SyntaxVerdict
import LibFred.RegistrableObject.Domain.UpdateDomain
import LibFred.RegistrableObject.InfoObjects
import LibFred.RegistrableObject.IntervalAgreement
import LibFred.RegistrableObject.Keyset.DnsKey
import LibFred.RegistrableObject.Keyset.InfoKeysetDiff
import LibFred.RegistrableObject.Keyset.KeyLists
import LibFred.RegistrableObject.Keyset.KeysetLife
import LibFred.RegistrableObject.Keyset.KeysetUpdates
import LibFred.RegistrableObject.Keyset.UpdateKeyset
import LibFred.RegistrableObject.LinkTakeOver
import LibFred.RegistrableObject.Nsset.HostLists
import LibFred.RegistrableObject.Nsset.InfoNssetDiff
import LibFred.RegistrableObject.Nsset.NssetLife
import LibFred.RegistrableObject.Nsset.NssetUpdates
import LibFred.RegistrableObject.Nsset.UpdateNsset
import LibFred.RegistrableObject.ObjectSteps
import LibFred.RegistrableObject.ObjectVersions
import LibFred.RegistrableObject.ObjectWrites
import LibFred.RegistrableObject.RecordedUpdates
import LibFred.RegistrableObject.Reference
import LibFred.RegistrableObject.RegistryChange
import LibFred.RegistrableObject.RegistryConsistency
import LibFred.RegistrableObject.RegistryRecords
import LibFred.RegistrableObject.RegistryRuns
import LibFred.RegistrableObject.RegistrySteps
import LibFred.RegistrableObject.StateHistory
import LibFred.RegistrableObject.StateTimeline
import LibFred.RegistrableObject.StateTimelineBegin
import LibFred.RegistrableObject.UpdateByItems
import LibFred.RegistrableObject.UpdateSteps
import LibFred.RegistrableObject.VersionChain
import LibFred.Registrar.Certification
import LibFred.Registrar.CertificationValidity
import LibFred.Registrar.ConcurrentPeriods
import LibFred.Registrar.ConcurrentZoneAccess
import LibFred.Registrar.CreditChanges
import LibFred.Registrar.CreditTransaction
import LibFred.Registrar.GroupCancellation
import LibFred.Registrar.GroupMembership
import LibFred.Registrar.GroupMembershipIntervals
import LibFred.Registrar.MembershipEnd
import LibFred.Registrar.RegistrarGroup
import LibFred.Registrar.ZoneAccess
import LibFred.Registrar.ZoneAccessAgreement
import LibFred.Registrar.ZoneAccessHistory
import LibFred.Registrar.ZoneAccessPeriods
import LibFred.Sql.Action
import LibFred.Sql.DryRun
import LibFred.Sql.Ends
import LibFred.Sql.GroupBy
import LibFred.Sql.Inserted
import LibFred.Sql.Join
import LibFred.Sql.Like
import LibFred.Sql.Moves
import LibFred.Sql.OrderBy
import LibFred.Sql.Raises
import LibFred.Sql.ReadCommitted
import LibFred.Sql.Regexp
import LibFred.Sql.SetList
import LibFred.Sql.Table
import LibFred.Sql.TableLock
import LibFred.Sql.Text
import LibFred.Sql.Truth
import LibFred.TakeOver
import LibFred.Transition
import LibFred.Util.Db.ParamQuery
import LibFred.Util.Db.ParamQueryComposition
import LibFred.Util.PasswordStorage.Base64
import LibFred.Util.PasswordStorage.PasswordStorage
import LibFred.Util.PasswordStorage.StoredPasswords
import LibFred.Util.Printable
import LibFred.Util.SqlTimePoint
import LibFred.Values
import LibFred.Versioning
import LibFred.Zone.Zone
import LibFred.Zone.ZoneSearch
