import TextTemplate.Document.Json
import TextTemplate.Document.Toml
import TextTemplate.Document.Yaml
import TextTemplate.Proofs.Entries
import TextTemplate.Proofs.Text.ByteOrder

/-! A document has one value, whichever of the three languages it is written in. -/

namespace TextTemplate

/-- A document, apart from the language that it is written in. -/
inductive Document where
  | null
  | bool (b : Bool)
  | int (n : Int64)
  /-- An integer of 64 bits without a sign that is too large for one with a sign. -/
  | large (n : UInt64) (exceeds : 0x8000000000000000 ≤ n.toNat)
  | float (x : Binary64) (finite : x.isFinite)
  | text (s : String)
  | list (items : List Document)
  | map (members : List (String × Document))

namespace Document

mutual

/-- What a document says: a large integer is rounded, and members keep their order. -/
def value : Document → Value
  | .null => .null
  | .bool b => .bool b
  | .int n => .int n
  | .large n _ => .float (.ofInt n.toNat)
  | .float x _ => .float x
  | .text s => .text s
  | .list items => .list (itemValues items)
  | .map members => .map (memberValues members)

/-- What each of some documents says. -/
def itemValues : List Document → List Value
  | [] => []
  | item :: items => item.value :: itemValues items

/-- What each of some named documents says. -/
def memberValues : List (String × Document) → List (String × Value)
  | [] => []
  | (name, member) :: members => (name, member.value) :: memberValues members

end

mutual

/-- A document in JSON. -/
def toJson : Document → Json
  | .null => .null
  | .bool b => .bool b
  | .int n => .int n.toInt
  | .large n _ => .int n.toNat
  | .float x _ => .float x
  | .text s => .string s
  | .list items => .array (itemJsons items)
  | .map members => .object (memberJsons members)

/-- Several documents in JSON. -/
def itemJsons : List Document → List Json
  | [] => []
  | item :: items => item.toJson :: itemJsons items

/-- Several named documents in JSON. -/
def memberJsons : List (String × Document) → List (String × Json)
  | [] => []
  | (name, member) :: members => (name, member.toJson) :: memberJsons members

end

mutual

/-- A document in YAML, where the names of members are keys of text. -/
def toYaml : Document → Yaml
  | .null => .null
  | .bool b => .bool b
  | .int n => .int n.toInt
  | .large n _ => .int n.toNat
  | .float x _ => .float x
  | .text s => .string s
  | .list items => .sequence (itemYamls items)
  | .map members => .ofPairs (memberYamls members)

/-- Several documents in YAML. -/
def itemYamls : List Document → List Yaml
  | [] => []
  | item :: items => item.toYaml :: itemYamls items

/-- Several named documents in YAML. -/
def memberYamls : List (String × Document) → List (Yaml × Yaml)
  | [] => []
  | (name, member) :: members => (.string name, member.toYaml) :: memberYamls members

end

mutual

/-- A document in TOML, which knows no null and no large integers. -/
def toToml? : Document → Option Toml
  | .null | .large _ _ => none
  | .bool b => some (.bool b)
  | .int n => some (.int n)
  | .float x _ => some (.float x)
  | .text s => some (.string s)
  | .list items => (itemTomls? items).map .array
  | .map members => (memberTomls? members).map .table

/-- Several documents in TOML. -/
def itemTomls? : List Document → Option (List Toml)
  | [] => some []
  | item :: items => do return (← item.toToml?) :: (← itemTomls? items)

/-- Several named documents in TOML. -/
def memberTomls? : List (String × Document) → Option (List (String × Toml))
  | [] => some []
  | (name, member) :: members => do return (name, ← member.toToml?) :: (← memberTomls? members)

end

mutual

/-- A document and all documents in it have a property. -/
def Every (p : Document → Prop) : Document → Prop
  | .list items => p (.list items) ∧ EveryItem p items
  | .map members => p (.map members) ∧ EveryMember p members
  | scalar => p scalar

/-- Several documents and all documents in them have a property. -/
def EveryItem (p : Document → Prop) : List Document → Prop
  | [] => True
  | item :: items => Every p item ∧ EveryItem p items

/-- Several named documents and all documents in them have a property. -/
def EveryMember (p : Document → Prop) : List (String × Document) → Prop
  | [] => True
  | (_, member) :: members => Every p member ∧ EveryMember p members

end

/-- The members of a map have distinct names that are sorted by their bytes. -/
def IsSorted : Document → Prop
  | .map members => members.Pairwise fun left right => utf8 left.1 < utf8 right.1
  | _ => True

/-- A document is of a kind that TOML knows. -/
def IsInToml : Document → Prop
  | .null | .large _ _ => False
  | _ => True

end Document

/-- An integer of 64 bits with a sign is one. -/
theorem int64?_toInt (n : Int64) : int64? n.toInt = some n := by
  -- The integer fits since it comes from 64 bits.
  rw [int64?, if_pos (fitsInt64_toInt n), Int64.ofInt_toInt]

/-- A large integer is none of 64 bits with a sign. -/
theorem int64?_large {n : UInt64} (exceeds : 0x8000000000000000 ≤ n.toNat) :
    int64? n.toNat = none := by
  -- The least large integer is one more than the greatest with a sign.
  have above : ¬fitsInt64 n.toNat := by
    rw [fitsInt64_iff]
    omega
  rw [int64?, if_neg above]

/-- An integer of 64 bits without a sign is one. -/
theorem uint64?_toNat (n : UInt64) : uint64? n.toNat = some n := by
  -- The number fits since it comes from 64 bits.
  have small := n.toNat_lt
  have fits : (0 : Int) ≤ n.toNat ∧ (n.toNat : Int) < 0x10000000000000000 := by omega
  rw [uint64?, if_pos fits, Int.toNat_natCast, UInt64.ofNat_toNat]

/-- Integers of either kind have the same value in JSON and in YAML. -/
theorem integerValue_eq {n : UInt64} (exceeds : 0x8000000000000000 ≤ n.toNat) :
    Json.integerValue n.toNat = .float (.ofInt n.toNat) ∧
      Yaml.integerValue n.toNat = .float (.ofInt n.toNat) := by
  have above := int64?_large exceeds
  refine ⟨by rw [Json.integerValue, above], ?_⟩
  -- In YAML the integer is first one without a sign, whose value is rounded.
  have unfit : ¬fitsInt64 n.toNat := by
    intro fits
    rw [int64?, if_pos fits] at above
    cases above
  rw [Yaml.integerValue, above, uint64?_toNat]
  simp only [Value.ofInt, Number.ofInt, if_neg unfit, Value.ofNumber]

/-- Entries whose names are sorted by their bytes are neither merged nor moved. -/
theorem Entries.sorted_ofList {α : Type} {entries : Entries α}
    (sorted : entries.Pairwise fun left right => utf8 left.1 < utf8 right.1) :
    ofList entries = entries ∧ entries.sorted = entries := by
  -- Names in order are distinct, so nothing is merged, and sorting leaves them in place.
  simp only [utf8_lt_iff] at sorted
  have distinct : entries.keys.Nodup :=
    List.pairwise_map.mpr (sorted.imp String.ne_of_lt)
  refine ⟨ofList_eq_self distinct, List.mergeSort_of_pairwise (sorted.imp fun less => ?_)⟩
  exact decide_eq_true (String.not_lt.mp (String.lt_asymm less))

namespace Yaml

/-- A value under a key that no other one equals comes last. -/
theorem insertPair_new {key value : Yaml} {pairs : List (Yaml × Yaml)}
    (fresh : ∀ pair ∈ pairs, sameKey pair.1 key = false) :
    insertPair key value pairs = pairs ++ [(key, value)] := by
  -- No key on the way is equal, so that the pair reaches the end.
  induction pairs with
  | nil => rfl
  | cons pair pairs ih =>
    obtain ⟨first, old⟩ := pair
    have other : ¬sameKey first key := by simp [fresh (first, old) (by simp)]
    rw [insertPair, if_neg other, ih fun next member => fresh next (by simp [member])]
    rfl

/-- Pairs of which no two keys are equal are a mapping as they are. -/
theorem ofPairs_distinct {pairs : List (Yaml × Yaml)}
    (distinct : pairs.Pairwise fun left right => sameKey left.1 right.1 = false) :
    ofPairs pairs = .mapping pairs := by
  -- The pairs that are merged already stand in front of those that are left.
  have merged : ∀ front back : List (Yaml × Yaml),
      (front ++ back).Pairwise (fun left right => sameKey left.1 right.1 = false) →
      back.foldl (fun merged pair => insertPair pair.1 pair.2 merged) front = front ++ back := by
    intro front back
    induction back generalizing front with
    | nil => simp
    | cons pair back ih =>
      intro apart
      obtain ⟨key, value⟩ := pair
      have fresh : ∀ earlier ∈ front, sameKey earlier.1 key = false := fun earlier member =>
        (List.pairwise_append.mp apart).2.2 earlier member (key, value) (by simp)
      simp only [List.foldl_cons]
      rw [insertPair_new fresh, ih _ (by simpa using apart)]
      simp
  have folded : ofPairs pairs =
      .mapping (pairs.foldl (fun merged pair => insertPair pair.1 pair.2 merged) []) := rfl
  rw [folded, merged [] pairs distinct, List.nil_append]

/-- The text of a key that is text is that text. -/
theorem keyText_text (s : String) : keyText (.text s) = s :=
  -- A text is shown as its characters.
  String.ofList_toList

end Yaml

namespace Document

/-- The names of members stay with the values. -/
theorem map_fst_memberValues (members : List (String × Document)) :
    (memberValues members).map Prod.fst = members.map Prod.fst := by
  -- Only the values are replaced.
  induction members with
  | nil => rfl
  | cons entry members ih =>
    obtain ⟨name, member⟩ := entry
    rw [memberValues, List.map_cons, List.map_cons, ih]

/-- The names of members become the keys in YAML. -/
theorem map_fst_memberYamls (members : List (String × Document)) :
    (memberYamls members).map Prod.fst = members.map fun entry => .string entry.1 := by
  -- Each name becomes a key, and the order stays.
  induction members with
  | nil => rfl
  | cons entry members ih =>
    obtain ⟨name, member⟩ := entry
    rw [memberYamls, List.map_cons, List.map_cons, ih]

/-- The values of sorted members are sorted entries. -/
theorem sorted_memberValues {members : List (String × Document)}
    (sorted : (Document.map members).IsSorted) :
    Entries.ofList (memberValues members) = memberValues members ∧
      Entries.sorted (memberValues members) = memberValues members := by
  -- Being sorted is a matter of the names alone.
  have names : (members.map Prod.fst).Pairwise fun left right => utf8 left < utf8 right :=
    List.pairwise_map.mpr sorted
  rw [← map_fst_memberValues, List.pairwise_map] at names
  exact Entries.sorted_ofList names

/-- The keys of sorted members are distinct in YAML, so the pairs are not merged. -/
theorem ofPairs_memberYamls {members : List (String × Document)}
    (sorted : (Document.map members).IsSorted) :
    Yaml.ofPairs (memberYamls members) = .mapping (memberYamls members) := by
  -- Texts that are in order are different, and so are the keys made of them.
  have keys : (members.map fun entry => Yaml.string entry.1).Pairwise
      fun left right => Yaml.sameKey left right = false := by
    refine List.pairwise_map.mpr (List.Pairwise.imp (fun less => ?_) sorted)
    simp only [Yaml.sameKey, decide_eq_false_iff_not]
    exact String.ne_of_lt (utf8_lt_iff.mp less)
  rw [← map_fst_memberYamls, List.pairwise_map] at keys
  exact Yaml.ofPairs_distinct keys

mutual

/-- In JSON and in YAML, a document with sorted names has the value that it says. -/
theorem toValue_eq : ∀ {document : Document}, document.Every IsSorted →
    document.toJson.toValue = document.value ∧ document.toYaml.toValue = document.value
  | .null, _ => ⟨rfl, rfl⟩
  | .bool _, _ => ⟨rfl, rfl⟩
  -- An integer with a sign is read back from the integer that is written.
  | .int n, _ => by
    simp only [toJson, toYaml, value, Json.toValue, Yaml.toValue, Json.integerValue,
      Yaml.integerValue, int64?_toInt, and_self]
  | .large n exceeds, _ => integerValue_eq exceeds
  | .float _ _, _ => ⟨rfl, rfl⟩
  | .text _, _ => ⟨rfl, rfl⟩
  -- Items have their values in both languages.
  | .list items, every => by
    obtain ⟨json, yaml⟩ := itemValues_eq every.2
    exact ⟨congrArg Value.list json, congrArg Value.list yaml⟩
  | .map members, every => by
    obtain ⟨json, yaml⟩ := memberValues_eq every.2
    obtain ⟨merged, sorted⟩ := sorted_memberValues every.1
    -- JSON sorts the members, and YAML leaves them in the order in which they stand.
    simp only [toJson, toYaml, value, Json.toValue, ofPairs_memberYamls every.1, Yaml.toValue,
      json, yaml, merged, sorted, and_self]

/-- Items of a list have the values that they say. -/
theorem itemValues_eq : ∀ {items : List Document}, EveryItem IsSorted items →
    Json.itemValues (itemJsons items) = itemValues items ∧
      Yaml.itemValues (itemYamls items) = itemValues items
  | [], _ => ⟨rfl, rfl⟩
  | item :: items, every => by
    obtain ⟨json, yaml⟩ := toValue_eq every.1
    obtain ⟨jsons, yamls⟩ := itemValues_eq every.2
    simp only [itemJsons, itemYamls, itemValues, Json.itemValues, Yaml.itemValues, json, yaml,
      jsons, yamls, and_self]

/-- Members of a map have the values that they say, under their names. -/
theorem memberValues_eq : ∀ {members : List (String × Document)}, EveryMember IsSorted members →
    Json.memberValues (memberJsons members) = memberValues members ∧
      Yaml.pairValues (memberYamls members) = memberValues members
  | [], _ => ⟨rfl, rfl⟩
  -- The name is a key of text, and it is shown as it is.
  | (name, member) :: members, every => by
    obtain ⟨json, yaml⟩ := toValue_eq every.1
    obtain ⟨jsons, yamls⟩ := memberValues_eq every.2
    have key : Yaml.keyText (Yaml.string name).toValue = name := Yaml.keyText_text name
    simp only [memberJsons, memberYamls, memberValues, Json.memberValues, Yaml.pairValues, json,
      yaml, jsons, yamls, key, and_self]

end

mutual

/-- A document of kinds that TOML knows can be written in it, and has the value that it says. -/
theorem exists_toToml : ∀ {document : Document}, document.Every IsSorted →
    document.Every IsInToml →
    ∃ toml, document.toToml? = some toml ∧ toml.toValue = document.value
  -- Neither null nor a large integer is of a kind that is known.
  | .null, _, known => known.elim
  | .bool _, _, _ => ⟨_, rfl, rfl⟩
  | .int _, _, _ => ⟨_, rfl, rfl⟩
  | .large _ _, _, known => known.elim
  | .float _ _, _, _ => ⟨_, rfl, rfl⟩
  | .text _, _, _ => ⟨_, rfl, rfl⟩
  -- A list is written where all of its items are.
  | .list items, every, known => by
    obtain ⟨tomls, written, values⟩ := exists_itemTomls every.2 known.2
    exact ⟨.array tomls, by rw [toToml?, written]; rfl, congrArg Value.list values⟩
  -- The table sorts its members too, which are in order already.
  | .map members, every, known => by
    obtain ⟨tomls, written, values⟩ := exists_memberTomls every.2 known.2
    obtain ⟨merged, sorted⟩ := sorted_memberValues every.1
    refine ⟨.table tomls, by rw [toToml?, written]; rfl, ?_⟩
    simp only [Toml.toValue, value, values, merged, sorted]

/-- Items of kinds that TOML knows can be written in it. -/
theorem exists_itemTomls : ∀ {items : List Document}, EveryItem IsSorted items →
    EveryItem IsInToml items →
    ∃ tomls, itemTomls? items = some tomls ∧ Toml.itemValues tomls = itemValues items
  | [], _, _ => ⟨[], rfl, rfl⟩
  -- The first item is written, and so are the others.
  | item :: items, every, known => by
    obtain ⟨toml, written, same⟩ := exists_toToml every.1 known.1
    obtain ⟨tomls, writtenToo, values⟩ := exists_itemTomls every.2 known.2
    refine ⟨toml :: tomls, by simp [itemTomls?, written, writtenToo], ?_⟩
    rw [Toml.itemValues, itemValues, same, values]

/-- Members of kinds that TOML knows can be written in it. -/
theorem exists_memberTomls : ∀ {members : List (String × Document)},
    EveryMember IsSorted members → EveryMember IsInToml members →
    ∃ tomls, memberTomls? members = some tomls ∧ Toml.memberValues tomls = memberValues members
  | [], _, _ => ⟨[], rfl, rfl⟩
  | (name, member) :: members, every, known => by
    obtain ⟨toml, written, same⟩ := exists_toToml every.1 known.1
    obtain ⟨tomls, writtenToo, values⟩ := exists_memberTomls every.2 known.2
    refine ⟨(name, toml) :: tomls, by simp [memberTomls?, written, writtenToo], ?_⟩
    rw [Toml.memberValues, memberValues, same, values]

end

end Document

/-- The languages agree about a document in which the names of each map are distinct and sorted.

Its forms in JSON and in YAML have the value that the document says, with members in their order.
Without null and large integers it also has a form in TOML, which has that value too. -/
theorem conversions_agree {document : Document} (sorted : document.Every Document.IsSorted) :
    document.toJson.toValue = document.value ∧ document.toYaml.toValue = document.value ∧
      (document.Every Document.IsInToml →
        ∃ toml, document.toToml? = some toml ∧ toml.toValue = document.value) := by
  obtain ⟨json, yaml⟩ := Document.toValue_eq sorted
  exact ⟨json, yaml, Document.exists_toToml sorted⟩

/-- A map in a list in a map is the same in all languages, and a large integer in two of them. -/
theorem conversions_agree_nested :
    let inner : Document := .map [("Z", .int (-1)), ("a", .text ""), ("\u00e9", .list [])]
    let outer : Document := .map [("items", .list [inner, .bool true]), ("zero", .int 0)]
    let wide : Document := .map [("large", .large 0x8000000000000000 (by decide)), ("none", .null)]
    outer.toYaml.toValue = outer.toJson.toValue ∧
      (∃ toml, outer.toToml? = some toml ∧ toml.toValue = outer.toJson.toValue) ∧
      wide.toYaml.toValue = wide.toJson.toValue ∧ wide.toToml? = none := by
  intro inner outer wide
  -- Names in order by their bytes are in order by their characters, which can be computed.
  have sorted : outer.Every Document.IsSorted := by
    simp only [outer, inner, Document.Every, Document.EveryItem, Document.EveryMember,
      Document.IsSorted, utf8_lt_iff]
    decide
  have wideSorted : wide.Every Document.IsSorted := by
    simp only [wide, Document.Every, Document.EveryMember, Document.IsSorted, utf8_lt_iff]
    decide
  have known : outer.Every Document.IsInToml := by
    simp [outer, inner, Document.Every, Document.EveryItem, Document.EveryMember,
      Document.IsInToml]
  obtain ⟨json, yaml, toml⟩ := conversions_agree sorted
  obtain ⟨wideJson, wideYaml, -⟩ := conversions_agree wideSorted
  exact ⟨yaml.trans json.symm, by rw [json]; exact toml known, wideYaml.trans wideJson.symm, rfl⟩

end TextTemplate
