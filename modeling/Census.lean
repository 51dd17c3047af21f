import Census.Label
import Census.Session
import Census.Settings.Source
import Census.Proofs.Conditions
import Census.Proofs.Firsts
import Census.Proofs.Selection
import Census.Proofs.Buckets
import Census.Proofs.Entries
import Census.Proofs.Keys
import Census.Proofs.Figures
import Census.Proofs.Placement
import Census.Proofs.Numerals
import Census.Proofs.Saturation
import Census.Proofs.Steadiness
import Census.Proofs.Sums
import Census.Proofs.Ranges
import Census.Proofs.Totals
import Census.Proofs.BucketFilters
import Census.Proofs.Edits
import Census.Proofs.Regrouping
import Census.Proofs.Generations
import Census.Proofs.Maps
import Census.Proofs.Reordering
import Census.Proofs.Extremes
import Census.Proofs.FirstExtreme
import Census.Proofs.Averages
import Census.Proofs.Discovery
import Census.Proofs.LabelledAxes
import Census.Proofs.Replication
import Census.Proofs.Intervals
import Census.Proofs.RelativeTimes
import Census.Proofs.Dates
import Census.Proofs.DayTexts
import Census.Proofs.DateFilters
import Census.Proofs.Accounting
import Census.Proofs.Language
import Census.Proofs.Composition
import Census.Proofs.Acceptance
import Census.Proofs.Ages
import Census.Proofs.Pruning
import Census.Proofs.OutOfRange
import Census.Proofs.Ancestors
import Census.Proofs.Rollup
import Census.Proofs.TextForms
import Census.Proofs.Documents
import Census.Proofs.Reload
import Census.Proofs.FileTypes
import Census.Proofs.Complements
import Census.Proofs.Columns
import Census.Proofs.ByteOrder
import Census.Proofs.Exports
import Census.Proofs.Lineage
import Census.Proofs.Bounds
import Census.Proofs.Layers
import Census.Proofs.Gaps
import Census.Proofs.Catalogs
import Census.Proofs.Listings
import Census.Proofs.Positions
import Census.Proofs.Blocks
