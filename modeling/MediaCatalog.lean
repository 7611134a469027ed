import MediaCatalog.Main
import MediaCatalog.Predicate.Normalize
import MediaCatalog.Sql.View
import MediaCatalog.Proofs.Acceptance
import MediaCatalog.Proofs.Closure
import MediaCatalog.Proofs.Compiled
import MediaCatalog.Proofs.NormalForm
import MediaCatalog.Proofs.Failures
import MediaCatalog.Proofs.Soundness
import MediaCatalog.Proofs.JsonReading
import MediaCatalog.Proofs.QueryDocuments
import MediaCatalog.Proofs.QueryMeaning
import MediaCatalog.Proofs.QueryRoundTrip
import MediaCatalog.Proofs.Readable
import MediaCatalog.Proofs.SearchResults
import MediaCatalog.Proofs.Calendar
import MediaCatalog.Proofs.DoubleText
import MediaCatalog.Proofs.Histories
import MediaCatalog.Proofs.Listings
import MediaCatalog.Proofs.Grants
import MediaCatalog.Proofs.SharedSearches
import MediaCatalog.Proofs.Isolation
import MediaCatalog.Proofs.MediaHistory
import MediaCatalog.Proofs.LinkHistory
import MediaCatalog.Proofs.Inversion
import MediaCatalog.Proofs.Expansion
import MediaCatalog.Proofs.FirstFault
import MediaCatalog.Proofs.NormalTruth
import MediaCatalog.Proofs.RowOrder
import MediaCatalog.Proofs.Breadcrumbs
import MediaCatalog.Proofs.AlbumListings
import MediaCatalog.Proofs.TakenOrder
import MediaCatalog.Proofs.Zones
import MediaCatalog.Proofs.RecordedZones
import MediaCatalog.Proofs.CalendarSearch
import MediaCatalog.Proofs.Replacement
import MediaCatalog.Proofs.Appearances
import MediaCatalog.Proofs.LinksInTurn
import MediaCatalog.Proofs.Freshness
import MediaCatalog.Proofs.LiteralTexts
import MediaCatalog.Proofs.Placeholders
import MediaCatalog.Proofs.FixedForms
import MediaCatalog.Proofs.ZoneNames
import MediaCatalog.Proofs.LoweredConditions
import MediaCatalog.Proofs.QuerySpellings
import MediaCatalog.Proofs.LeafOrder
import MediaCatalog.Proofs.Forests
