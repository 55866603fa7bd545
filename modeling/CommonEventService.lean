import CommonEventService.Lib.Machine
import CommonEventService.Lib.EndlessRun
import CommonEventService.Lib.RetentionWindow
import CommonEventService.Lib.Channel
import CommonEventService.Lib.DoWhile
import CommonEventService.Lib.StdAlgorithm
import CommonEventService.Lib.Dict
import CommonEventService.Basic
import CommonEventService.FrozenEvents
import CommonEventService.SubscriberManager
import CommonEventService.SubscriberIndex
import CommonEventService.Platform
import CommonEventService.SubscriberMatching
import CommonEventService.OrderedPipeline
import CommonEventService.OrderedDispatch
import CommonEventService.OrderedActivity
import CommonEventService.ReplyMatching
import CommonEventService.WakeUp
import CommonEventService.Completion
import CommonEventService.UnorderedDelivery
import CommonEventService.FrozenRedelivery
import CommonEventService.SubscriberRegistry
import CommonEventService.FrozenRegistration
import CommonEventService.FrozenWindow
import CommonEventService.StaticSubscriberManager
import CommonEventService.StickyManager
import CommonEventService.InnerCommonEventManager
import CommonEventService.ServiceInvariants
import CommonEventService.StickyReplay
import CommonEventService.PublishTrace
import CommonEventService.SharedCells
import CommonEventService.FrozenCustody
import CommonEventService.TimeoutWatchdog
import CommonEventService.StaticSubscriberDataManager
import CommonEventService.DisableState
import CommonEventService.LegacyMigration
import CommonEventService.KeyMigration
import CommonEventService.AbilityManagerHelper
import CommonEventService.DelayedDisconnect
import CommonEventService.SubscriberDeath
import CommonEventService.UserIsolation
import CommonEventService.CommonEvent
import CommonEventService.ListenerCache
import CommonEventService.SubscriberCounts
import CommonEventService.SubscriberAlike
import CommonEventService.CompactionTransparency
import CommonEventService.PublisherFilter
import CommonEventService.AllowList
import CommonEventService.StaticRegistry
import CommonEventService.DisableSwitch
import CommonEventService.DisableSave
import CommonEventService.Parcel
import CommonEventService.Marshalling
import CommonEventService.PublishManager
import CommonEventService.Lib.RangeFor
import CommonEventService.ConnectDone
import CommonEventService.StaticFilter
import CommonEventService.DecodedObjects
import CommonEventService.PublishControl
import CommonEventService.PermissionTable
import CommonEventService.StickyQuery
import CommonEventService.DeliveryLedger
import CommonEventService.FaithfulLedger
import CommonEventService.PublisherConstraints
import CommonEventService.OrderedProgress
import CommonEventService.AnswerOnce
import CommonEventService.OrderedProtocol
import CommonEventService.ReplyCorrelation
import CommonEventService.Lib.Observation
import CommonEventService.ServiceFront
import CommonEventService.CallsInOrder
import CommonEventService.FrontGuarantees
import CommonEventService.EventOrigins
import CommonEventService.Recipients
import CommonEventService.Lib.FairQueue
import CommonEventService.UnorderedProgress
import CommonEventService.ClientRecovery
