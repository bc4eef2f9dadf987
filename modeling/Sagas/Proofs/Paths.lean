import Mathlib.Order.Bounds.Defs
import Sagas.Message

/-!
# The path in front of a name

The short name of a message type is its name without the path: the longest part in front that ends
in `::` and opens no generic argument. Colons and `<` are characters of ASCII, so the place where
the name is cut can as well be found in its bytes, and whatever other characters there are it lies
between two of them.

* `IsPath`: what a path in front of a name is.
* `afterPath?_cases`: the path that is cut off is the longest one.
* `Cut`: a name in two parts; `Cut.not_isPath`: what is left has no path in front.
* `exists_split_of_ascii`: a byte of ASCII stands in UTF-8 for its character and for nothing else.
* `pathEnds`: where a search through bytes finds the end of a path; `isGreatest_cut`: the last such
  place is where the name is cut.
* `shortName_splits`: what is cut off, and what is left.
-/

namespace Sagas

variable {name front short path rest tail cs : List Char} {c : Char} {b : UInt8} {i : Nat}

/-! ## Paths -/

/-- **A path** ends in `::` and opens no generic argument. -/
def IsPath (path : List Char) : Prop := [':', ':'] <:+ path ∧ '<' ∉ path

theorem isPath_cons :
    IsPath (c :: path) ↔ c ≠ '<' ∧ (IsPath path ∨ c = ':' ∧ path = [':']) := by
  unfold IsPath
  rw [List.suffix_cons_iff, List.mem_cons, not_or, ne_comm]
  constructor
  · rintro ⟨hcolons | hsuffix, hc, hpath⟩
    · obtain ⟨rfl, rfl⟩ : ':' = c ∧ [':'] = path := by simpa using hcolons
      exact ⟨hc, .inr ⟨rfl, rfl⟩⟩
    · exact ⟨hc, .inl ⟨hsuffix, hpath⟩⟩
  · rintro ⟨hc, ⟨hsuffix, hpath⟩ | ⟨rfl, rfl⟩⟩
    · exact ⟨.inr hsuffix, hc, hpath⟩
    · exact ⟨.inl rfl, hc, by decide⟩

theorem not_isPath_nil : ¬ IsPath [] := by
  rintro ⟨hsuffix, -⟩
  exact absurd hsuffix (by decide)

theorem IsPath.two_le_length (h : IsPath path) : 2 ≤ path.length := h.1.length_le

theorem IsPath.append (h : IsPath path) (hfront : '<' ∉ front) : IsPath (front ++ path) := by
  refine ⟨h.1.trans (List.suffix_append front path), ?_⟩
  rw [List.mem_append, not_or]
  exact ⟨hfront, h.2⟩

/-! ## The longest one -/

/-- **The longest path** at the front of a name. -/
structure LongestPath (name path : List Char) : Prop where
  leads : path <+: name
  isPath : IsPath path
  longest : ∀ other, other <+: name → IsPath other → other <+: path

/-- A path at the front of a name with one more character is that of the rest with the character,
or it is the first two characters. -/
theorem isPath_of_prefix_cons (h : path <+: c :: rest) (hpath : IsPath path) :
    c ≠ '<' ∧ ∃ more, path = c :: more ∧ more <+: rest ∧
      (IsPath more ∨ c = ':' ∧ more = [':']) := by
  rcases List.prefix_cons_iff.1 h with rfl | ⟨more, rfl, hmore⟩
  · exact absurd hpath not_isPath_nil
  · obtain ⟨hc, hor⟩ := isPath_cons.1 hpath
    exact ⟨hc, more, rfl, hmore, hor⟩

theorem LongestPath.cons (h : LongestPath rest path) (hc : c ≠ '<') :
    LongestPath (c :: rest) (c :: path) := by
  refine ⟨List.prefix_cons_inj c |>.2 h.leads, isPath_cons.2 ⟨hc, .inl h.isPath⟩, ?_⟩
  intro other hother hisPath
  obtain ⟨-, more, rfl, hmore, hpath | ⟨-, rfl⟩⟩ := isPath_of_prefix_cons hother hisPath
  · exact List.prefix_cons_inj c |>.2 (h.longest more hmore hpath)
  · -- two colons end before the path of the rest does
    have hlength : [':'].length ≤ path.length := Nat.le_of_succ_le h.isPath.two_le_length
    exact List.prefix_cons_inj c |>.2 (List.prefix_of_prefix_length_le hmore h.leads hlength)

theorem longestPath_colons (h : ∀ path, path <+: ':' :: tail → ¬ IsPath path) :
    LongestPath (':' :: ':' :: tail) [':', ':'] := by
  refine ⟨List.prefix_append [':', ':'] tail, ⟨List.suffix_rfl, by decide⟩, ?_⟩
  intro other hother hisPath
  obtain ⟨-, more, rfl, hmore, hpath | ⟨-, rfl⟩⟩ := isPath_of_prefix_cons hother hisPath
  · exact absurd hpath (h more hmore)
  · exact List.prefix_rfl

theorem afterPath?_cons_of_none (hc : c ≠ '<') (h : afterPath? rest = none) :
    afterPath? (c :: rest) =
      if c = ':' ∧ rest.head? = some ':' then some rest.tail else none := by
  rw [afterPath?.eq_def]
  dsimp only
  rw [if_neg hc, h]
  cases rest with
  | nil => simp
  | cons d tail => simp

/-- **What is cut off** in front of a name is its longest path, and nothing if it has none, by
induction along the name. -/
theorem afterPath?_cases (name : List Char) :
    (∃ path tail, afterPath? name = some tail ∧ name = path ++ tail ∧ LongestPath name path) ∨
      afterPath? name = none ∧ ∀ path, path <+: name → ¬ IsPath path := by
  induction name with
  | nil =>
    refine .inr ⟨rfl, fun path hleads hpath => ?_⟩
    rw [List.prefix_nil.1 hleads] at hpath
    exact not_isPath_nil hpath
  | cons c rest ih =>
    by_cases hc : c = '<'
    · refine .inr ⟨by simp [afterPath?, hc], fun path hleads hpath => ?_⟩
      exact (isPath_of_prefix_cons hleads hpath).1 hc
    · rcases ih with ⟨path, tail, htail, rfl, hlongest⟩ | ⟨hnone, hno⟩
      · exact .inl ⟨c :: path, tail, by simp [afterPath?, hc, htail], rfl, hlongest.cons hc⟩
      · -- the rest has no path, so one of the whole name can only be its first two characters
        by_cases hcolons : c = ':' ∧ rest.head? = some ':'
        · obtain ⟨rfl, hhead⟩ := hcolons
          obtain ⟨tail, rfl⟩ := List.head?_eq_some_iff.1 hhead
          refine .inl ⟨[':', ':'], tail, ?_, rfl, longestPath_colons hno⟩
          exact (afterPath?_cons_of_none hc hnone).trans (if_pos ⟨rfl, rfl⟩)
        · refine .inr ⟨?_, fun path hleads hpath => ?_⟩
          · exact (afterPath?_cons_of_none hc hnone).trans (if_neg hcolons)
          · obtain ⟨-, more, rfl, hmore, hisPath | ⟨rfl, rfl⟩⟩ :=
              isPath_of_prefix_cons hleads hpath
            · exact hno more hmore hisPath
            · obtain ⟨tail, rfl⟩ := hmore
              exact hcolons ⟨rfl, rfl⟩

/-! ## What is left -/

/-- A name cut behind its longest path, or not at all if it has none. -/
structure Cut (name front short : List Char) : Prop where
  whole : name = front ++ short
  path : front = [] ∨ IsPath front
  longest : ∀ path, path <+: name → IsPath path → path <+: front

theorem exists_cut (name : List Char) : ∃ front, Cut name front (withoutPath name) := by
  rcases afterPath?_cases name with ⟨path, tail, htail, hname, hlongest⟩ | ⟨hnone, hno⟩
  · refine ⟨path, ?_, .inr hlongest.isPath, hlongest.longest⟩
    rw [withoutPath, htail]
    exact hname
  · refine ⟨[], ?_, .inl rfl, fun path hleads hpath => absurd hpath (hno path hleads)⟩
    rw [withoutPath, hnone]
    rfl

namespace Cut

variable (h : Cut name front short)

include h

theorem not_mem : '<' ∉ front := by
  rcases h.path with rfl | hpath
  · exact List.not_mem_nil
  · exact hpath.2

/-- What is left has no path in front: behind the one that was cut off it would make a longer
one. -/
theorem not_isPath (hleads : path <+: short) : ¬ IsPath path := by
  intro hpath
  have hlonger : front ++ path <+: front := by
    refine h.longest _ ?_ (hpath.append h.not_mem)
    rw [h.whole]
    exact (List.prefix_append_right_inj front).2 hleads
  have hlength := hlonger.length_le
  rw [List.length_append] at hlength
  have := hpath.two_le_length
  omega

theorem plain : ¬ [':', ':'] <:+: short.takeWhile (· ≠ '<') := by
  rintro ⟨before, after, hcolons⟩
  have hleads : before ++ [':', ':'] <+: short.takeWhile (· ≠ '<') := ⟨after, hcolons⟩
  refine h.not_isPath (hleads.trans (List.takeWhile_prefix _))
    ⟨List.suffix_append before [':', ':'], fun hmem => ?_⟩
  have hne := List.all_eq_true.1 List.all_takeWhile '<' (hleads.subset hmem)
  simp at hne

theorem kept : short.dropWhile (· ≠ '<') = name.dropWhile (· ≠ '<') := by
  have hfront : ∀ c ∈ front, (decide (c ≠ '<')) = true := by
    intro c hc
    exact decide_eq_true fun heq => h.not_mem (heq ▸ hc)
  rw [h.whole, List.dropWhile_append_of_pos hfront]

theorem again : withoutPath short = short := by
  rcases afterPath?_cases short with ⟨path, _, -, -, hlongest⟩ | ⟨hnone, -⟩
  · exact absurd hlongest.isPath (h.not_isPath hlongest.leads)
  · rw [withoutPath, hnone]
    rfl

end Cut

/-! ## Characters and bytes -/

/-- The UTF-8 form of a row of characters. -/
def encoded (cs : List Char) : List UInt8 := cs.flatMap String.utf8EncodeChar

theorem encoded_cons (c : Char) (cs : List Char) :
    encoded (c :: cs) = String.utf8EncodeChar c ++ encoded cs := List.flatMap_cons

@[simp] theorem encoded_append (cs rest : List Char) :
    encoded (cs ++ rest) = encoded cs ++ encoded rest := List.flatMap_append

theorem encoded_eq_nil_iff : encoded cs = [] ↔ cs = [] := by
  cases cs with
  | nil => simp [encoded]
  | cons c cs => simp [encoded_cons, String.utf8EncodeChar_ne_nil]

/-- The bytes of a text. -/
def utf8 (text : String) : List UInt8 := text.toUTF8.data.toList

theorem utf8_eq (text : String) : utf8 text = encoded text.toList := by
  have hbytes : text.toUTF8 = text.toList.utf8Encode := by
    calc text.toUTF8 = (String.ofList text.toList).toUTF8 := by rw [String.ofList_toList]
      _ = text.toList.utf8Encode := rfl
  rw [utf8, hbytes]
  exact List.toList_data_toByteArray

theorem length_utf8 (text : String) : (utf8 text).length = text.utf8ByteSize := by
  rw [utf8, Array.length_toList]
  rfl

theorem utf8EncodeChar_of_lt (h : c.toNat < 128) :
    String.utf8EncodeChar c = [UInt8.ofNat c.toNat] := by
  have hsmall : c.val.toNat ≤ 127 := Nat.le_of_lt_succ h
  unfold String.utf8EncodeChar
  exact if_pos hsmall

/-- All bytes of the characters beyond ASCII are beyond it. -/
theorem le_of_mem_utf8EncodeChar (h : 128 ≤ c.toNat) (hb : b ∈ String.utf8EncodeChar c) :
    128 ≤ b.toNat := by
  have hbyte : ∀ n, 128 ≤ n → n < 256 → 128 ≤ (UInt8.ofNat n).toNat := by
    intro n hn hfits
    rwa [UInt8.toNat_ofNat_of_lt' hfits]
  have hlarge : ¬ c.val.toNat ≤ 127 := Nat.not_le_of_lt h
  unfold String.utf8EncodeChar at hb
  dsimp only at hb
  rw [if_neg hlarge] at hb
  split at hb
  · simp only [List.mem_cons, List.not_mem_nil, or_false] at hb
    rcases hb with rfl | rfl <;> exact hbyte _ (by omega) (by omega)
  · split at hb
    · simp only [List.mem_cons, List.not_mem_nil, or_false] at hb
      rcases hb with rfl | rfl | rfl <;> exact hbyte _ (by omega) (by omega)
    · simp only [List.mem_cons, List.not_mem_nil, or_false] at hb
      rcases hb with rfl | rfl | rfl | rfl <;> exact hbyte _ (by omega) (by omega)

/-- A byte of ASCII is all that stands for its character. -/
theorem eq_of_mem_utf8EncodeChar (h : b ∈ String.utf8EncodeChar c) (hb : b.toNat < 128) :
    String.utf8EncodeChar c = [b] ∧ c.toNat = b.toNat := by
  rcases Nat.lt_or_ge c.toNat 128 with hc | hc
  · have hencoded := utf8EncodeChar_of_lt hc
    have hfits : c.toNat < UInt8.size := Nat.lt_trans hc (by decide)
    rw [hencoded, List.mem_singleton] at h
    rw [hencoded, h, UInt8.toNat_ofNat_of_lt' hfits]
    exact ⟨rfl, rfl⟩
  · have := le_of_mem_utf8EncodeChar hc h
    omega

/-- **A byte of ASCII** in the UTF-8 form of a text is a character at that place. -/
theorem exists_split_of_ascii (h : (encoded cs)[i]? = some b) (hb : b.toNat < 128) :
    ∃ before c rest, cs = before ++ c :: rest ∧ (encoded before).length = i ∧
      c.toNat = b.toNat := by
  induction cs generalizing i with
  | nil => cases h
  | cons c cs ih =>
    rw [encoded_cons] at h
    rcases Nat.lt_or_ge i (String.utf8EncodeChar c).length with hlt | hge
    · rw [List.getElem?_append_left hlt] at h
      obtain ⟨hsingle, hc⟩ := eq_of_mem_utf8EncodeChar (List.mem_of_getElem? h) hb
      have hi : i = 0 := by
        rw [hsingle] at hlt
        exact Nat.lt_one_iff.1 hlt
      exact ⟨[], c, cs, rfl, hi.symm, hc⟩
    · rw [List.getElem?_append_right hge] at h
      obtain ⟨before, d, rest, rfl, hlength, hd⟩ := ih h
      refine ⟨c :: before, d, rest, rfl, ?_, hd⟩
      rw [encoded_cons, List.length_append, hlength]
      omega

/-- A character of ASCII whose byte is in the UTF-8 form of a text is in the text. -/
theorem mem_of_mem_encoded {d : Char} (h : b ∈ encoded cs) (hb : b.toNat < 128)
    (hd : d.toNat = b.toNat) : d ∈ cs := by
  obtain ⟨i, hi⟩ := List.mem_iff_getElem?.1 h
  obtain ⟨before, c, rest, rfl, -, hc⟩ := exists_split_of_ascii hi hb
  rw [Char.toNat_inj.1 (hd.trans hc.symm)]
  exact List.mem_append_right _ List.mem_cons_self

theorem encoded_colons : encoded [':', ':'] = [0x3A, 0x3A] := rfl

/-! ## The place of the cut -/

/-- Where a search through the bytes of a name finds the end of a path: behind two colons with no
`<` before, or right in front. -/
def pathEnds (name : String) : Set Nat :=
  {n | n = 0 ∨ ∃ i, n = i + 2 ∧ (utf8 name)[i]? = some 0x3A ∧ (utf8 name)[i + 1]? = some 0x3A ∧
    0x3C ∉ (utf8 name).take n}

/-- Two bytes that are colons are two characters that are. -/
theorem exists_split_of_colons (h : (encoded cs)[i]? = some 0x3A)
    (h' : (encoded cs)[i + 1]? = some 0x3A) :
    ∃ before rest, cs = before ++ [':', ':'] ++ rest ∧ (encoded before).length = i := by
  obtain ⟨before, c, rest, rfl, hlength, hc⟩ := exists_split_of_ascii h (by decide)
  obtain rfl : ':' = c := Char.toNat_inj.1 hc.symm
  have hnext : (encoded rest)[0]? = some 0x3A := by
    have hshift : encoded (before ++ ':' :: rest) = encoded before ++ 0x3A :: encoded rest := by
      rw [encoded_append]
      rfl
    rw [hshift, List.getElem?_append_right (by omega)] at h'
    have hone : i + 1 - (encoded before).length = 1 := by omega
    rwa [hone] at h'
  -- the second colon stands right behind the first, with no character between them
  obtain ⟨between, d, more, rfl, hbetween, hd⟩ := exists_split_of_ascii hnext (by decide)
  obtain rfl : ':' = d := Char.toNat_inj.1 hd.symm
  obtain rfl := encoded_eq_nil_iff.1 (List.eq_nil_of_length_eq_zero hbetween)
  exact ⟨before, more, by simp, hlength⟩

theorem mem_pathEnds {name : String} (hleads : path <+: name.toList) (hpath : IsPath path) :
    (encoded path).length ∈ pathEnds name := by
  obtain ⟨⟨before, rfl⟩, hopens⟩ := hpath
  obtain ⟨rest, hrest⟩ := hleads
  have hname : utf8 name = encoded (before ++ [':', ':']) ++ encoded rest := by
    rw [utf8_eq, ← hrest, encoded_append]
  have hbytes : utf8 name = encoded before ++ (0x3A :: 0x3A :: encoded rest) := by
    rw [hname, encoded_append, encoded_colons, List.append_assoc]
    rfl
  refine .inr ⟨(encoded before).length, ?_, ?_, ?_, ?_⟩
  · rw [encoded_append, List.length_append, encoded_colons]
    rfl
  · rw [hbytes, List.getElem?_append_right (Nat.le_refl _), Nat.sub_self]
    rfl
  · have hone : (encoded before).length + 1 - (encoded before).length = 1 :=
      Nat.add_sub_cancel_left _ _
    rw [hbytes, List.getElem?_append_right (Nat.le_succ _), hone]
    rfl
  · rw [hname, List.take_left]
    exact fun hmem => hopens (mem_of_mem_encoded hmem (by decide) (by decide))

theorem exists_path_of_mem_pathEnds {name : String} {n : Nat} (h : n ∈ pathEnds name) :
    n = 0 ∨ ∃ path, path <+: name.toList ∧ IsPath path ∧ (encoded path).length = n := by
  rcases h with rfl | ⟨i, rfl, hi, hnext, hopens⟩
  · exact .inl rfl
  · rw [utf8_eq] at hi hnext hopens
    obtain ⟨before, rest, hsplit, hlength⟩ := exists_split_of_colons hi hnext
    have hcut : (encoded (before ++ [':', ':'])).length = i + 2 := by
      rw [encoded_append, encoded_colons, List.length_append, hlength]
      rfl
    refine .inr ⟨before ++ [':', ':'], ⟨rest, hsplit.symm⟩, ⟨?_, fun hmem => hopens ?_⟩, hcut⟩
    · exact List.suffix_append before [':', ':']
    · rw [hsplit, encoded_append, ← hcut, List.take_left]
      exact List.mem_flatMap.2 ⟨'<', hmem, by decide⟩

/-- **A name is cut** at the last place where a search through its bytes finds the end of a path. -/
theorem isGreatest_cut {name : String} (h : Cut name.toList front short) :
    IsGreatest (pathEnds name) (encoded front).length := by
  refine ⟨?_, fun n hn => ?_⟩
  · rcases h.path with rfl | hpath
    · exact .inl rfl
    · exact mem_pathEnds ⟨short, h.whole.symm⟩ hpath
  · rcases exists_path_of_mem_pathEnds hn with rfl | ⟨path, hleads, hpath, rfl⟩
    · exact Nat.zero_le _
    · obtain ⟨more, hmore⟩ := h.longest path hleads hpath
      rw [← hmore, encoded_append, List.length_append]
      exact Nat.le_add_right _ _

/-! ## Short names -/

/-- How a name is split into a front and a short name. -/
structure Splits (name front short : String) : Prop where
  /-- Nothing is lost. -/
  whole : name = front ++ short
  /-- The front is a path, or nothing. -/
  path : front = "" ∨ IsPath front.toList
  /-- All paths at the front of the name are within it. -/
  longest : ∀ path, path <+: name.toList → IsPath path → path <+: front.toList
  /-- It ends at the last place where a search through the bytes of the name finds the end of a
  path. -/
  place : IsGreatest (pathEnds name) front.utf8ByteSize
  /-- That place is between two characters. -/
  boundary : (String.Pos.Raw.mk front.utf8ByteSize).IsValid name
  /-- The bytes from there on are those of the short name. -/
  sliced : name.toUTF8.extract front.utf8ByteSize name.utf8ByteSize = short.toUTF8
  /-- There is no path left in front of the first generic argument. -/
  plain : ¬ [':', ':'] <:+: short.toList.takeWhile (· ≠ '<')
  /-- The generic arguments are kept as they are. -/
  kept : short.toList.dropWhile (· ≠ '<') = name.toList.dropWhile (· ≠ '<')
  /-- A short name is short already. -/
  again : ∀ id, MessageType.shortName ⟨id, short⟩ = short

/-- **The short name** of a message type is its name without the longest path in front. -/
theorem shortName_splits (type : MessageType) :
    ∃ front, Splits type.name front type.shortName := by
  obtain ⟨front, h⟩ := exists_cut type.name.toList
  have hwhole : type.name = String.ofList front ++ type.shortName := by
    rw [MessageType.shortName, ← String.ofList_append, ← h.whole, String.ofList_toList]
  have hsize : (String.ofList front).utf8ByteSize = (encoded front).length := by
    rw [← length_utf8, utf8_eq, String.toList_ofList]
  refine ⟨String.ofList front, ?_⟩
  constructor
  · exact hwhole
  · rw [String.toList_ofList]
    rcases h.path with rfl | hpath
    · exact .inl rfl
    · exact .inr hpath
  · rw [String.toList_ofList]
    exact h.longest
  · rw [hsize]
    exact isGreatest_cut h
  · exact String.Pos.Raw.isValid_iff_exists_append.2 ⟨_, _, hwhole, rfl⟩
  · have hbytes : type.name.toUTF8 = (String.ofList front).toUTF8 ++ type.shortName.toUTF8 := by
      calc type.name.toUTF8 = (String.ofList front ++ type.shortName).toUTF8 := by rw [← hwhole]
        _ = (String.ofList front).toUTF8 ++ type.shortName.toUTF8 := String.toByteArray_append
    have hall : type.name.utf8ByteSize = type.name.toUTF8.size := rfl
    rw [hall, hbytes]
    exact ByteArray.extract_append_eq_right rfl ByteArray.size_append
  · rw [MessageType.shortName, String.toList_ofList]
    exact h.plain
  · rw [MessageType.shortName, String.toList_ofList]
    exact h.kept
  · intro id
    rw [MessageType.shortName, MessageType.shortName, String.toList_ofList, h.again]

-- a path of characters beyond ASCII, and one inside the generic arguments
example : MessageType.shortName ⟨0, "größe::κόσμος::Envelope<größe::Order>"⟩ =
    "Envelope<größe::Order>" := by decide +kernel

end Sagas
