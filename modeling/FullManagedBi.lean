import FullManagedBi.Laws.HistorySummary
import FullManagedBi.Laws.HydrationReadBack
import FullManagedBi.Laws.WebhookKeys
import FullManagedBi.Laws.BackfillCheckpoints
import FullManagedBi.Laws.BackfillTiling
import FullManagedBi.Laws.CollectionLedger
import FullManagedBi.Laws.CoordinatorStores
import FullManagedBi.Laws.AccessHistory
import FullManagedBi.Laws.ProfileLock
import FullManagedBi.Laws.LockedFiles
import FullManagedBi.Laws.ReceiptAgreement
import FullManagedBi.Laws.ReceiptReview
import FullManagedBi.Laws.CookieSending
import FullManagedBi.Laws.SetCookieHeader
import FullManagedBi.Laws.ObservedSymmetry
import FullManagedBi.Laws.QualityStatus
import FullManagedBi.Laws.PurchaseOrders
import FullManagedBi.Laws.LevelGroups
import FullManagedBi.Laws.Regions
import FullManagedBi.Laws.ProductPaging
import FullManagedBi.Laws.SkuSales
import FullManagedBi.Laws.Inventory
import FullManagedBi.Laws.DashboardTotals
import FullManagedBi.Laws.ScrubbedText
import FullManagedBi.Laws.PageGate
import FullManagedBi.Laws.Promotion
import FullManagedBi.Laws.ReportingGoods
import FullManagedBi.Laws.Publication
import FullManagedBi.Laws.Retention
import FullManagedBi.Laws.StockAdvice
import FullManagedBi.Laws.InventoryReconciliation
import FullManagedBi.Laws.ProjectionNotifier
import FullManagedBi.Laws.LoginLimiter
import FullManagedBi.Laws.FinanceWindow
import FullManagedBi.Laws.MultipartForms
import FullManagedBi.Laws.FactReplay
import FullManagedBi.Laws.CoordinatorSummary
import FullManagedBi.Laws.PushGuard
import FullManagedBi.Laws.GuardHandover
import FullManagedBi.Laws.FileCache
import FullManagedBi.Laws.ActionPool
import FullManagedBi.Laws.CutoverScan
import FullManagedBi.Laws.DashboardMaterializer
import FullManagedBi.Laws.FreezeContinuity
import FullManagedBi.Laws.CdpClient
import FullManagedBi.Laws.HttpSession
import FullManagedBi.Laws.WorklistOrder
import FullManagedBi.Laws.StockAdvice
