import DoubleDispatch.Input.Error
import DoubleDispatch.Schema.Listing
import DoubleDispatch.Schema.Settings
import DoubleDispatch.Toml.Reader
import DoubleDispatch.Toml.Plain

/-! Inputs from texts in memory. A whole text is read before its schema is looked at. A text that
does not fit counts as malformed if it cannot even be held as plain values. -/
namespace DoubleDispatch.Input
open Catalog (Listing)

def decodeText (decode : Document → Except Schema.Mismatch α) (text : String) : Except Flaw α :=
  match Toml.parse text with
  | none => .error .malformed
  | some document =>
    match decode document with
    | .ok value => .ok value
    | .error cause => .error (if Toml.isPlain document then .mismatch cause else .malformed)

def listingText (text : String) : Except Flaw Listing :=
  decodeText (Schema.decodeListing .toml) text

def settingsText (text : String) : Except Flaw Settings :=
  decodeText (Schema.decodeSettings .toml) text

end DoubleDispatch.Input
