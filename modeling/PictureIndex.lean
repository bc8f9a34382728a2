import PictureIndex.Annotation
import PictureIndex.Answer
import PictureIndex.Backend
import PictureIndex.Bitmap
import PictureIndex.Bitmap.Decoder
import PictureIndex.Bitmap.Inflate
import PictureIndex.Bitmap.Jpeg
import PictureIndex.Bitmap.Jpeg.Header
import PictureIndex.Bitmap.Jpeg.Scan
import PictureIndex.Bitmap.Png
import PictureIndex.Bitmap.PrefixCode
import PictureIndex.Bitmap.Webp
import PictureIndex.Bitmap.Webp.Chances
import PictureIndex.Bitmap.Webp.KeyFrame
import PictureIndex.Bitmap.Webp.Lossless
import PictureIndex.Budget
import PictureIndex.Config
import PictureIndex.Config.Settings
import PictureIndex.Error
import PictureIndex.FileTree
import PictureIndex.FileTree.Edit
import PictureIndex.Gate
import PictureIndex.Inspection
import PictureIndex.Json.Decode
import PictureIndex.Json.Printer
import PictureIndex.Json.Relaxed
import PictureIndex.Json.Syntax
import PictureIndex.Number.Double
import PictureIndex.Number.Rounding
import PictureIndex.Number.Shortest
import PictureIndex.Number.Single
import PictureIndex.Number.Written
import PictureIndex.Path
import PictureIndex.Picture
import PictureIndex.Plan
import PictureIndex.Proofs.Accounting
import PictureIndex.Proofs.AnnotationOutcomes
import PictureIndex.Proofs.Attendance
import PictureIndex.Proofs.BeforeArming
import PictureIndex.Proofs.BreadthFirst
import PictureIndex.Proofs.Breakdowns
import PictureIndex.Proofs.BudgetEnforcement
import PictureIndex.Proofs.CalmRuns
import PictureIndex.Proofs.Chronology
import PictureIndex.Proofs.ConfidentLabels
import PictureIndex.Proofs.Courses
import PictureIndex.Proofs.Covenants
import PictureIndex.Proofs.DeletedPictures
import PictureIndex.Proofs.Deliveries
import PictureIndex.Proofs.Descent
import PictureIndex.Proofs.DirectoryLookup
import PictureIndex.Proofs.Drainage
import PictureIndex.Proofs.Effects
import PictureIndex.Proofs.EventOrder
import PictureIndex.Proofs.ExtractedWords
import PictureIndex.Proofs.Finality
import PictureIndex.Proofs.Findings
import PictureIndex.Proofs.FirstBytes
import PictureIndex.Proofs.FreshTimes
import PictureIndex.Proofs.FullPass
import PictureIndex.Proofs.GateSchedule
import PictureIndex.Proofs.Interleaving
import PictureIndex.Proofs.Isolation
import PictureIndex.Proofs.JsonStrings
import PictureIndex.Proofs.Launches
import PictureIndex.Proofs.LawfulRecords
import PictureIndex.Proofs.Ledger
import PictureIndex.Proofs.LinkedRoots
import PictureIndex.Proofs.ListingOrder
import PictureIndex.Proofs.Liveness
import PictureIndex.Proofs.MergedWords
import PictureIndex.Proofs.PathTexts
import PictureIndex.Proofs.PlanConduct
import PictureIndex.Proofs.PlanRuns
import PictureIndex.Proofs.Provenance
import PictureIndex.Proofs.RecordedTimes
import PictureIndex.Proofs.RelaxedStrings
import PictureIndex.Proofs.Releases
import PictureIndex.Proofs.RemovedDirectory
import PictureIndex.Proofs.Requests
import PictureIndex.Proofs.Resolution
import PictureIndex.Proofs.Rows
import PictureIndex.Proofs.SchedulerLog
import PictureIndex.Proofs.SchedulerOrder
import PictureIndex.Proofs.SchedulerStatus
import PictureIndex.Proofs.SchedulerTally
import PictureIndex.Proofs.SchedulerTurns
import PictureIndex.Proofs.SearchedWords
import PictureIndex.Proofs.SettledPictures
import PictureIndex.Proofs.SpentBudget
import PictureIndex.Proofs.StaleRecords
import PictureIndex.Proofs.StaleRemovals
import PictureIndex.Proofs.StoreAsMap
import PictureIndex.Proofs.StoreTables
import PictureIndex.Proofs.SweptRecords
import PictureIndex.Proofs.Timeouts
import PictureIndex.Proofs.Transactions
import PictureIndex.Proofs.Traps
import PictureIndex.Proofs.Vocabulary
import PictureIndex.Record
import PictureIndex.Scheduler
import PictureIndex.Simulation.Script
import PictureIndex.Simulation.Session
import PictureIndex.Simulation.World
import PictureIndex.Status
import PictureIndex.Store.Basic
import PictureIndex.Store.Open
import PictureIndex.Store.Search
import PictureIndex.Sweep
import PictureIndex.Table
import PictureIndex.Text.Blank
import PictureIndex.Text.CaseTable
import PictureIndex.Text.LowerCase
import PictureIndex.Text.Order
import PictureIndex.Text.Utf8
import PictureIndex.Time.Calendar
import PictureIndex.Time.Instant
import PictureIndex.Time.Rfc3339
import PictureIndex.Time.Wait
import PictureIndex.WordFilter
import PictureIndex.Worker
