import ApiContract.Proofs.Entries
import ApiContract.Proofs.Value.Parts

/-!
# How texts are spelled

A text is compared with anything by the way it is spelled: as a key of a
dictionary, and by itself.  A tag is spelled as the text it is written as.
-/

namespace ApiContract.Value

/-- How a text is spelled, in characters or in code points. -/
def spelling? : Value → Option (String ⊕ List Nat)
  | .str s => some (.inl s)
  | .tag t => some (.inl t.text)
  | .unpaired codes => some (.inr codes)
  | _ => none

/-- A text may be a key. -/
theorem isKey_of_isText {v : Value} (text : v.isText = true) : v.isKey = true := by
  cases v <;> first | rfl | simp [isText] at text

/-- Something is the same key as a text exactly if it is spelled like it. -/
theorem sameKey_iff_of_isText {v w : Value} (text : w.isText = true) :
    sameKey v w = true ↔ v.spelling? = w.spelling? := by
  cases w with
  | str s => cases v <;> simp [sameKey, text?, number?, spelling?]
  | tag t => cases v <;> simp [sameKey, text?, number?, spelling?]
  | unpaired codes => cases v <;> simp [sameKey, text?, number?, spelling?]
  | _ => simp [isText] at text

/-- Something is the same as a text exactly if it is spelled like it. -/
theorem same_iff_of_isText {v w : Value} (text : w.isText = true) :
    same v w = true ↔ v.spelling? = w.spelling? := by
  have keys : same v w = sameKey v w := by
    cases w with
    | str | tag | unpaired => cases v <;> simp [same]
    | _ => simp [isText] at text
  rw [keys, sameKey_iff_of_isText text]

/-- Texts are the same in either order, as keys and by themselves. -/
theorem sameKey_eq_same {v w : Value} (text : v.isText = true) (other : w.isText = true) :
    sameKey v w = same w v := by
  rw [Bool.eq_iff_iff, sameKey_iff_of_isText other, same_iff_of_isText text]
  exact eq_comm

/-- Storing under a text changes what is found under texts that are spelled like it. -/
theorem getBy?_putKey {α : Type} {k q : Value} (text : k.isText = true)
    (sought : q.isText = true) (entries : Entries Value α) (a : α) :
    Entries.getBy? sameKey (putKey entries k a) q =
      if sameKey k q then some a else Entries.getBy? sameKey entries q := by
  have spelled : ∀ {w : Value}, w.isText = true →
      ∀ v, sameKey v w = true ↔ spelling? v = spelling? w :=
    fun text _ => sameKey_iff_of_isText text
  exact Entries.getBy?_putBy (spelled text) (spelled sought) entries a

end ApiContract.Value
