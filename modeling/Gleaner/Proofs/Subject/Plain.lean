import Gleaner.Subject
import Gleaner.Proofs.Entries
import Gleaner.Proofs.Json.Document
import Gleaner.Proofs.Number.Binary64
import Gleaner.Proofs.Number.Numeral

/-!
# Subjects that documents denote

A document denotes a plain subject: maps have distinct texts as keys, doubles are finite, and no
object of the host occurs. Writing a plain subject gives a document that denotes it, so nothing of
it is lost where it travels as a document. A document itself need not come back: of the integers
that fit a word without a sign only, the subject has the nearest double.
-/

namespace Gleaner.Subject

inductive IsPlain : Subject → Prop
  | null : IsPlain null
  | bool (b : Bool) : IsPlain (bool b)
  | int (n : Int64) : IsPlain (int n)
  | float {x : Binary64} (hfinite : x.isFinite = true) : IsPlain (float x)
  | string (s : String) : IsPlain (string s)
  | sequence {items : List Subject} (hitems : ∀ item ∈ items, IsPlain item) :
      IsPlain (sequence items)
  | map {members : List (String × Subject)} (hnames : (members.map Prod.fst).Nodup)
      (hmembers : ∀ member ∈ members, IsPlain member.2) :
      IsPlain (map (members.map fun member => (.text member.1, member.2)))

/-! ### Collections are written and read part by part -/

theorem toJsonItems_eq_map (items : List Subject) : toJsonItems items = items.map toJson := by
  induction items with
  | nil => rfl
  | cons item rest ih => rw [toJsonItems, ih, List.map_cons]

theorem toJsonEntries_eq_map (entries : List (Key × Subject)) :
    toJsonEntries entries = entries.map fun entry => (entry.1.segment, entry.2.toJson) := by
  induction entries with
  | nil => rfl
  | cons entry rest ih => rw [toJsonEntries, ih, List.map_cons]

theorem ofJsonItems_eq_map (items : List Json) : ofJsonItems items = items.map ofJson := by
  induction items with
  | nil => rfl
  | cons item rest ih => rw [ofJsonItems, ih, List.map_cons]

theorem ofJsonMembers_eq_map (members : List (String × Json)) :
    ofJsonMembers members = members.map fun member => (.text member.1, ofJson member.2) := by
  induction members with
  | nil => rfl
  | cons member rest ih => rw [ofJsonMembers, ih, List.map_cons]

theorem toJson_map_of_nodup {members : List (String × Subject)}
    (hnames : (members.map Prod.fst).Nodup) :
    (map (members.map fun member => (.text member.1, member.2))).toJson =
      .object (members.map fun member => (member.1, member.2.toJson)) := by
  rw [toJson, toJsonEntries_eq_map, List.map_map, Entries.ofPairs_of_nodup]
  · rfl
  · rw [List.map_map]
    exact hnames

/-! ### There and back -/

theorem isPlain_ofJson {v : Json} (h : v.IsDocument) : (ofJson v).IsPlain := by
  induction h with
  | null => exact .null
  | bool b => exact .bool b
  | @int n hlow hhigh =>
    rw [ofJson]
    split
    · exact .int _
    · rename_i hfits
      rw [Numeral.fitsWord_iff, not_and] at hfits
      exact .float (Binary64.isFinite_ofInt (Int.not_le.1 (hfits hlow)) hhigh)
  | float hfinite => exact .float hfinite
  | string s => exact .string s
  | array hitems ih =>
    rw [ofJson, ofJsonItems_eq_map]
    refine .sequence fun item hitem => ?_
    obtain ⟨v, hv, rfl⟩ := List.mem_map.1 hitem
    exact ih v hv
  | @object members hnames hmembers ih =>
    have hplain : IsPlain (map ((members.map fun member => (member.1, ofJson member.2)).map
        fun member => (.text member.1, member.2))) := by
      refine .map ?_ fun member hmember => ?_
      · rw [List.map_map]
        exact hnames
      · obtain ⟨source, hsource, rfl⟩ := List.mem_map.1 hmember
        exact ih source hsource
    rw [ofJson, ofJsonMembers_eq_map]
    rwa [List.map_map] at hplain

theorem IsPlain.isDocument_toJson {v : Subject} (h : v.IsPlain) : v.toJson.IsDocument := by
  induction h with
  | null => exact .null
  | bool b => exact .bool b
  | int n => exact Json.isDocument_word n
  | float hfinite =>
    rw [toJson, if_pos hfinite]
    exact .float hfinite
  | string s => exact .string s
  | sequence hitems ih =>
    rw [toJson, toJsonItems_eq_map]
    refine .array fun item hitem => ?_
    obtain ⟨v, hv, rfl⟩ := List.mem_map.1 hitem
    exact ih v hv
  | map hnames hmembers ih =>
    rw [toJson_map_of_nodup hnames]
    refine .object ?_ fun member hmember => ?_
    · rw [List.map_map]
      exact hnames
    · obtain ⟨source, hsource, rfl⟩ := List.mem_map.1 hmember
      exact ih source hsource

theorem IsPlain.ofJson_toJson {v : Subject} (h : v.IsPlain) : ofJson v.toJson = v := by
  induction h with
  | null => rfl
  | bool b => rfl
  | int n =>
    rw [toJson, ofJson, if_pos (Numeral.fitsWord_toInt n), Int64.ofInt_toInt]
  | float hfinite => rw [toJson, if_pos hfinite, ofJson]
  | string s => rfl
  | @sequence items hitems ih =>
    have hback : items.map (ofJson ∘ toJson) = items.map id := List.map_congr_left ih
    rw [toJson, toJsonItems_eq_map, ofJson, ofJsonItems_eq_map, List.map_map, hback, List.map_id]
  | @map members hnames hmembers ih =>
    rw [toJson_map_of_nodup hnames, ofJson, ofJsonMembers_eq_map, List.map_map]
    have hback : members.map ((fun member => (Key.text member.1, ofJson member.2)) ∘
        fun member => (member.1, member.2.toJson)) =
          members.map fun member => (Key.text member.1, member.2) :=
      List.map_congr_left fun member hmember => congrArg (Prod.mk _) (ih member hmember)
    rw [hback]

end Gleaner.Subject
