import Mathlib.Tactic

namespace AgentFabric.Pagination

variable {Item Answer Exception : Type*}

/-- A page of a list with the number of all items and the offset of the next page. -/
structure Page (Item : Type*) where
  items : List Item
  total : Nat
  limit : Nat
  offset : Nat
  nextOffset : Option Nat

/-- The page at an offset, after which another one follows while items are left. -/
def page (items : List Item) (limit offset : Nat) : Page Item where
  items := (items.drop offset).take limit
  total := items.length
  limit := limit
  offset := offset
  nextOffset := if offset + limit < items.length then some (offset + limit) else none

/-- A client asks for the page at an offset, and then for the page at the offset that the answer
names, until an answer names none. -/
inductive Follows (request : Nat → Except Exception Answer) (view : Answer → Page Item) :
    Nat → List Answer → Prop where
  | last {offset : Nat} {answer : Answer} (answered : request offset = .ok answer)
      (ended : (view answer).nextOffset = none) : Follows request view offset [answer]
  | next {offset following : Nat} {answer : Answer} {rest : List Answer}
      (answered : request offset = .ok answer)
      (continued : (view answer).nextOffset = some following)
      (others : Follows request view following rest) : Follows request view offset (answer :: rest)

section Walk

variable {request : Nat → Except Exception Answer} {view : Answer → Page Item} {items : List Item}
  {limit : Nat}

/-- Every offset is answered by its page. -/
def Pages (request : Nat → Except Exception Answer) (view : Answer → Page Item)
    (items : List Item) (limit : Nat) : Prop :=
  ∀ offset, ∃ answer, request offset = .ok answer ∧ view answer = page items limit offset

section

variable (pages : Pages request view items limit)
include pages

/-- A client reaches the last page, since every page but the last one moves the offset on. -/
theorem Pages.terminates (positive : 0 < limit)
    (offset : Nat) : ∃ answers, Follows request view offset answers := by
  induction left : items.length - offset using Nat.strongRecOn generalizing offset with
  | ind count ih =>
      obtain ⟨answer, answered, shown⟩ := pages offset
      by_cases more : offset + limit < items.length
      · have continued : (view answer).nextOffset = some (offset + limit) := by
          rw [shown, page, if_pos more]
        have smaller : items.length - (offset + limit) < count := by omega
        obtain ⟨rest, others⟩ := ih _ smaller (offset + limit) rfl
        exact ⟨answer :: rest, .next answered continued others⟩
      · have ended : (view answer).nextOffset = none := by rw [shown, page, if_neg more]
        exact ⟨[answer], .last answered ended⟩

/-- The answered page is the only answer at its offset. -/
theorem Pages.view_eq {offset : Nat} {answer : Answer}
    (answered : request offset = .ok answer) : view answer = page items limit offset := by
  obtain ⟨other, returned, shown⟩ := pages offset
  rw [answered] at returned
  cases returned
  exact shown

/-- The pages that a client takes are the items from its offset on, and all show the same total. -/
theorem Pages.concatenation {offset : Nat}
    {answers : List Answer} (walk : Follows request view offset answers) :
    answers.flatMap (fun answer => (view answer).items) = items.drop offset ∧
      ∀ answer ∈ answers, (view answer).total = items.length := by
  induction walk with
  | last answered ended =>
      rename_i offset answer
      have shown := pages.view_eq answered
      rw [shown, page] at ended
      have short : items.length ≤ offset + limit := by
        by_contra more
        rw [if_pos (Nat.not_le.mp more)] at ended
        cases ended
      have whole : (items.drop offset).take limit = items.drop offset := by
        refine List.take_of_length_le ?_
        rw [List.length_drop]
        omega
      simp [shown, page, whole]
  | next answered continued others ih =>
      rename_i offset following answer rest
      have shown := pages.view_eq answered
      rw [shown, page] at continued
      have moved : following = offset + limit := by
        split at continued
        · exact (Option.some.inj continued).symm
        · cases continued
      obtain ⟨concatenated, totals⟩ := ih
      rw [List.flatMap_cons, concatenated, shown, moved, ← List.drop_drop]
      refine ⟨List.take_append_drop _ _, ?_⟩
      intro other member
      rcases List.mem_cons.mp member with rfl | later
      · rw [shown, page]
      · exact totals other later

end

end Walk

end AgentFabric.Pagination

namespace AgentFabric.ByteLayout

section Utf8

/-- The bytes of a text in UTF-8. -/
def encode (text : List Char) : List UInt8 := text.flatMap String.utf8EncodeChar

theorem encode_append (first second : List Char) :
    encode (first ++ second) = encode first ++ encode second := List.flatMap_append

/-- A text of ASCII characters has a byte for each of them. -/
theorem length_encode_of_ascii {text : List Char} (ascii : ∀ char ∈ text, char.toNat < 128) :
    (encode text).length = text.length := by
  induction text with
  | nil => rfl
  | cons char rest ih =>
      have small : char.toNat < 128 := ascii char (.head _)
      have one : char.utf8Size = 1 := by
        rw [Char.utf8Size, if_pos]
        exact UInt32.le_iff_toNat_le.mpr (Nat.le_of_lt_succ small)
      have others := ih fun other member => ascii other (.tail _ member)
      rw [encode, List.flatMap_cons, List.length_append, String.length_utf8EncodeChar, one,
        List.length_cons, ← others, encode, Nat.add_comm]

end Utf8

section Digits

variable (width value : Nat)

/-- A number in decimal digits, filled up with zeros to a width. -/
def zeroPadded : List Char := (Nat.toDigits 10 value).leftpad width '0'

theorem ofDigitChars_zeroPadded : Nat.ofDigitChars 10 (zeroPadded width value) 0 = value := by
  rw [zeroPadded, List.leftpad, Nat.ofDigitChars_append, Nat.ofDigitChars_replicate_zero,
    Nat.mul_zero, Nat.ofDigitChars_ten_toDigits]

theorem length_zeroPadded {width value : Nat} (positive : 0 < width) (fits : value < 10 ^ width) :
    (zeroPadded width value).length = width := by
  have short := (Nat.length_toDigits_le_iff (by decide) positive).mpr fits
  rw [zeroPadded, List.length_leftpad]
  exact Nat.max_eq_left short

theorem isDigit_of_mem_zeroPadded {width value : Nat} {char : Char}
    (member : char ∈ zeroPadded width value) : char.isDigit = true := by
  rcases List.mem_append.mp member with filled | digit
  · rw [List.eq_of_mem_replicate filled]
    decide
  · exact Nat.isDigit_of_mem_toDigits (by decide) (by decide) digit

theorem ascii_of_isDigit {char : Char} (digit : char.isDigit = true) : char.toNat < 128 := by
  simp only [Char.isDigit, Bool.and_eq_true, decide_eq_true_eq] at digit
  exact Nat.lt_of_le_of_lt (UInt32.le_iff_toNat_le.mp digit.2) (by decide)

/-- The bytes are the digits of a number. -/
def Reads (bytes : List UInt8) (value : Nat) : Prop :=
  ∃ digits : List Char, encode digits = bytes ∧ (∀ char ∈ digits, char.isDigit = true) ∧
    Nat.ofDigitChars 10 digits 0 = value

theorem reads_toDigits (value : Nat) : Reads (encode (Nat.toDigits 10 value)) value :=
  ⟨_, rfl, fun _ member => Nat.isDigit_of_mem_toDigits (by decide) (by decide) member,
    Nat.ofDigitChars_ten_toDigits⟩

theorem reads_zeroPadded : Reads (encode (zeroPadded width value)) value :=
  ⟨_, rfl, fun _ member => isDigit_of_mem_zeroPadded member, ofDigitChars_zeroPadded width value⟩

end Digits

section Buffers

variable {Byte : Type*} {ending buffer : List Byte} {offsets : List Nat} {items : List (List Byte)}

/-- The items join a buffer one by one with an ending, and each notes where it begins. -/
def writeAll (ending buffer : List Byte) (offsets : List Nat) (items : List (List Byte)) :
    List Byte × List Nat :=
  items.foldl (fun written item => (written.1 ++ (item ++ ending), written.2 ++ [written.1.length]))
    (buffer, offsets)

theorem writeAll_fst :
    (writeAll ending buffer offsets items).1 = buffer ++ items.flatMap (· ++ ending) := by
  induction items generalizing buffer offsets with
  | nil => simp [writeAll]
  | cons item rest ih =>
      have later := @ih (buffer ++ (item ++ ending)) (offsets ++ [buffer.length])
      rw [List.flatMap_cons, ← List.append_assoc]
      exact later

theorem writeAll_snd :
    (writeAll ending buffer offsets items).2 = offsets ++ (List.range items.length).map fun index =>
      (buffer ++ (items.take index).flatMap (· ++ ending)).length := by
  induction items generalizing buffer offsets with
  | nil => simp [writeAll]
  | cons item rest ih =>
      have later := @ih (buffer ++ (item ++ ending)) (offsets ++ [buffer.length])
      rw [List.length_cons, List.range_succ_eq_map, List.map_cons, List.map_map]
      refine later.trans ?_
      rw [List.append_assoc, List.singleton_append]
      congr 2
      · simp
      · refine List.map_congr_left ?_
        intro index _
        simp [Nat.add_assoc]

/-- An item begins where it is noted, after the buffer and the items before it. -/
theorem writeAll_at {index : Nat} {item : List Byte} (listed : items[index]? = some item)
    (rest : List Byte) :
    let offset := (buffer ++ (items.take index).flatMap (· ++ ending)).length
    ((writeAll ending buffer offsets items).1 ++ rest).take offset =
        buffer ++ (items.take index).flatMap (· ++ ending) ∧
      item ++ ending <+: ((writeAll ending buffer offsets items).1 ++ rest).drop offset := by
  obtain ⟨inside, found⟩ := List.getElem?_eq_some_iff.mp listed
  have split : items = items.take index ++ item :: items.drop (index + 1) := by
    rw [← found, List.getElem_cons_drop, List.take_append_drop]
  have whole : (writeAll ending buffer offsets items).1 ++ rest =
      (buffer ++ (items.take index).flatMap (· ++ ending)) ++
        ((item ++ ending) ++ ((items.drop (index + 1)).flatMap (· ++ ending) ++ rest)) := by
    rw [writeAll_fst]
    conv_lhs => rw [split]
    simp
  intro offset
  rw [whole]
  refine ⟨List.take_left, ?_⟩
  rw [List.drop_left]
  exact List.prefix_append _ _

end Buffers

section Rows

variable {Byte Item : Type*} {row : Item → List Byte} {width : Nat}

/-- A row of a table whose rows have one width is found at its index. -/
theorem take_drop_rows {items : List Item} (even : ∀ item ∈ items, (row item).length = width)
    {index : Nat} {item : Item} (listed : items[index]? = some item) (rest : List Byte) :
    ((items.flatMap row ++ rest).drop (width * index)).take width = row item := by
  induction items generalizing index with
  | nil => cases listed
  | cons first others ih =>
      have firstWidth := even first (.head _)
      cases index with
      | zero =>
          cases listed
          rw [Nat.mul_zero, List.drop_zero, List.flatMap_cons, List.append_assoc, ← firstWidth]
          exact List.take_left
      | succ previous =>
          have later := ih (fun other member => even other (.tail _ member)) listed
          rw [List.flatMap_cons, List.append_assoc, Nat.mul_succ, Nat.add_comm, ← List.drop_drop,
            ← firstWidth, List.drop_left, firstWidth]
          exact later

end Rows

end AgentFabric.ByteLayout

namespace AgentFabric.ConsecutiveIntervals

/-- The inclusive intervals that end at the given places and start behind the ones before them. -/
def bounds : Nat → List Nat → List (Nat × Nat)
  | _, [] => []
  | start, last :: rest => (start, last) :: bounds (last + 1) rest

/-- Every interval ends at its start or later. -/
def Increasing : Nat → List Nat → Prop
  | _, [] => True
  | start, last :: rest => start ≤ last ∧ Increasing (last + 1) rest

instance : (start : Nat) → (ends : List Nat) → Decidable (Increasing start ends)
  | _, [] => .isTrue trivial
  | start, last :: rest =>
      have : Decidable (Increasing (last + 1) rest) := instDecidableIncreasing (last + 1) rest
      inferInstanceAs (Decidable (start ≤ last ∧ Increasing (last + 1) rest))

/-- A place lies inside an interval. -/
def Inside (place : Nat) (interval : Nat × Nat) : Prop :=
  interval.1 ≤ place ∧ place ≤ interval.2

instance (place : Nat) (interval : Nat × Nat) : Decidable (Inside place interval) :=
  inferInstanceAs (Decidable (_ ∧ _))

/-- A place before all intervals lies in none. -/
theorem countP_bounds_of_lt {start place : Nat} {ends : List Nat}
    (increasing : Increasing start ends) (before : place < start) :
    (bounds start ends).countP (fun interval => Inside place interval) = 0 := by
  induction ends generalizing start with
  | nil => rfl
  | cons last rest ih =>
      obtain ⟨ordered, later⟩ := increasing
      have outside : ¬ Inside place (start, last) := fun inside => absurd inside.1 (not_le.mpr before)
      rw [bounds, List.countP_cons_of_neg (by simpa using outside)]
      exact ih later (by omega)

/-- A place between the start and some end lies in exactly one interval, and others lie in none. -/
theorem countP_bounds {start : Nat} {ends : List Nat} (increasing : Increasing start ends)
    (place : Nat) :
    (bounds start ends).countP (fun interval => Inside place interval) =
      if start ≤ place ∧ ∃ last ∈ ends, place ≤ last then 1 else 0 := by
  induction ends generalizing start with
  | nil => simp [bounds]
  | cons last rest ih =>
      obtain ⟨ordered, later⟩ := increasing
      rw [bounds]
      by_cases inside : Inside place (start, last)
      · rw [List.countP_cons_of_pos (by simpa using inside),
          countP_bounds_of_lt later (Nat.lt_succ_of_le inside.2), if_pos]
        exact ⟨inside.1, last, .head _, inside.2⟩
      · rw [List.countP_cons_of_neg (by simpa using inside), ih later]
        apply if_congr _ rfl rfl
        constructor
        · rintro ⟨above, other, member, below⟩
          exact ⟨by omega, other, List.mem_cons_of_mem _ member, below⟩
        · rintro ⟨above, other, member, below⟩
          have past : last < place := by
            by_contra within
            exact inside ⟨above, not_lt.mp within⟩
          rcases List.mem_cons.mp member with rfl | further
          · omega
          · exact ⟨past, other, further, below⟩

section Totals

variable {Item : Type*}

theorem sum_filter (selects : Item → Bool) (weight : Item → Int) (items : List Item) :
    ((items.filter selects).map weight).sum =
      (items.map fun item => if selects item then weight item else 0).sum := by
  induction items with
  | nil => rfl
  | cons item rest ih =>
      rw [List.map_cons, List.sum_cons, ← ih]
      cases chosen : selects item with
      | true => rw [List.filter_cons_of_pos chosen, List.map_cons, List.sum_cons, if_pos rfl]
      | false =>
          rw [List.filter_cons_of_neg (by rw [chosen]; exact Bool.false_ne_true),
            if_neg Bool.false_ne_true, zero_add]

/-- The totals of several selections count every item as often as it is selected. -/
theorem sum_totals (selections : List (Item → Bool)) (weight : Item → Int) (items : List Item) :
    (selections.map fun selects => ((items.filter selects).map weight).sum).sum =
      (items.map fun item => (selections.countP fun selects => selects item : Int) *
        weight item).sum := by
  induction selections with
  | nil => simp
  | cons selects rest ih =>
      rw [List.map_cons, List.sum_cons, ih, sum_filter, ← List.sum_map_add]
      congr 1
      apply List.map_congr_left
      intro item _
      rw [List.countP_cons]
      cases selects item with
      | true =>
          rw [if_pos rfl, if_pos rfl]
          push_cast
          ring
      | false =>
          rw [if_neg Bool.false_ne_true, if_neg Bool.false_ne_true, zero_add]
          rfl

end Totals

end AgentFabric.ConsecutiveIntervals
