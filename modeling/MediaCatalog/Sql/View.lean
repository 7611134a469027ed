import MediaCatalog.Sql.Lower
/-!
# The media view in statements

The view merges each media item that is not deleted with its current file: the latest upload, the
highest version first. A column prefers the item's own value, and `taken` and its zone always come
from the same side.
-/

namespace MediaCatalog.Sql

/-- The current file of every media item. -/
def currentFile : String :=
"WITH current_file AS (
    SELECT * FROM (
        SELECT media_file.*, ROW_NUMBER() OVER (
            PARTITION BY media_file.media
            ORDER BY media_file.uploaded DESC, media_file.version DESC
        ) AS file_rank
        FROM media_file
    ) WHERE file_rank = 1
),
"

/-- The columns of the view before those of the metadata. -/
def viewHead : String :=
mediaView ++ " AS (
    SELECT
        media_item.id AS id,
        media_item.catalog AS catalog,
        media_item.created AS created,
        MAX(media_item.updated, COALESCE(current_file.uploaded, media_item.updated)) AS updated,
        current_file.id AS file_id,
        current_file.uploaded AS file_uploaded,
        current_file.version AS file_version,
        current_file.file_name AS file_name,
        current_file.file_size AS file_size,
        current_file.width AS file_width,
        current_file.height AS file_height,
        current_file.mimetype AS file_mimetype,
        current_file.duration AS file_duration,
        current_file.frame_rate AS file_frame_rate,
        current_file.bit_rate AS file_bit_rate,
"

/-- The column of a field that each side may give. -/
def viewColumn (f : MetadataField) : String :=
  "        COALESCE(media_item." ++ f.column ++ ", current_file." ++ f.column ++ ") AS "
    ++ f.column ++ ",\n"

/-- The columns that come from one side, and the rows of the view. -/
def viewTail : String :=
"        CASE WHEN media_item.taken IS NOT NULL THEN media_item.taken ELSE current_file.taken END"
++ " AS taken,
        CASE WHEN media_item.taken IS NOT NULL THEN media_item.taken_zone"
++ " ELSE current_file.taken_zone END AS taken_zone
    FROM media_item
    LEFT JOIN current_file ON current_file.media = media_item.id
    WHERE media_item.deleted = 0 AND media_item.catalog = "

/-- The view of the media items of a catalog. -/
def view (catalog : String) : Sql :=
  .text currentFile :: .text viewHead
    :: (MetadataField.all.filter (· ≠ .taken)).map (fun f => .text (viewColumn f))
    ++ [.text viewTail, .bind (.text catalog), .text "\n)\n"]

end MediaCatalog.Sql
