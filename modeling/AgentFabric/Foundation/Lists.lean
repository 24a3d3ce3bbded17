import Mathlib.Data.List.Induction
import Mathlib.Data.List.Sort
import Mathlib.Order.Lex

namespace AgentFabric.Sorting

variable {Item Other Key : Type*} [LinearOrder Key] (key : Item → Key) (items : List Item)

/-- The stable sort orders the items by their key. -/
def sortedBy : List Item :=
  items.insertionSort fun first second => key first ≤ key second

instance keyTotal (key : Item → Key) :
    Std.Total fun first second : Item => key first ≤ key second :=
  ⟨fun first second => le_total (key first) (key second)⟩

instance keyTrans (key : Item → Key) :
    IsTrans Item fun first second : Item => key first ≤ key second :=
  ⟨fun _ _ _ left right => le_trans left right⟩

theorem sortedBy_perm : (sortedBy key items).Perm items :=
  List.perm_insertionSort _ items

@[simp] theorem mem_sortedBy (item : Item) :
    item ∈ sortedBy key items ↔ item ∈ items := (sortedBy_perm key items).mem_iff

@[simp] theorem length_sortedBy :
    (sortedBy key items).length = items.length := (sortedBy_perm key items).length_eq

@[simp] theorem isEmpty_sortedBy :
    (sortedBy key items).isEmpty = items.isEmpty := (sortedBy_perm key items).isEmpty_eq

theorem sortedBy_pairwise :
    (sortedBy key items).Pairwise fun first second => key first ≤ key second :=
  List.pairwise_insertionSort _ items

/-- The last of the sorted items has the greatest key. -/
theorem sortedBy_getLast? (last : Item) (found : (sortedBy key items).getLast? = some last) :
    last ∈ items ∧ ∀ item ∈ items, key item ≤ key last := by
  obtain ⟨earlier, split⟩ := List.getLast?_eq_some_iff.mp found
  have ordered := sortedBy_pairwise key items
  rw [split, List.pairwise_append] at ordered
  refine ⟨(mem_sortedBy key items last).mp (by simp [split]), ?_⟩
  intro item member
  rw [← mem_sortedBy key items, split] at member
  rcases List.mem_append.mp member with inside | same
  · exact ordered.2.2 item inside last (.head _)
  · rw [List.mem_singleton.mp same]

/-- A list in key order stays as it is. -/
theorem sortedBy_of_pairwise (ordered : items.Pairwise fun first second => key first ≤ key second) :
    sortedBy key items = items := ordered.insertionSort_eq

/-- A map that keeps the keys commutes with the sort. -/
theorem map_sortedBy (otherKey : Other → Key) (f : Item → Other)
    (items : List Item) (keeps : ∀ item ∈ items, otherKey (f item) = key item) :
    (sortedBy key items).map f = sortedBy otherKey (items.map f) := by
  apply List.map_insertionSort
  intro first firstMember second secondMember
  rw [keeps first firstMember, keeps second secondMember]

variable (keep : Item → Bool)

/-- A filter of an insertion into a sorted list is the insertion into the filtered list. -/
theorem filter_orderedInsert (item : Item)
    (sorted : List Item) (ordered : sorted.Pairwise fun first second => key first ≤ key second) :
    (sorted.orderedInsert (fun first second => key first ≤ key second) item).filter keep =
      if keep item then
        (sorted.filter keep).orderedInsert (fun first second => key first ≤ key second) item
      else sorted.filter keep := by
  induction sorted with
  | nil => by_cases kept : keep item = true <;> simp [kept]
  | cons head tail ih =>
      obtain ⟨least, rest⟩ := List.pairwise_cons.mp ordered
      by_cases below : key item ≤ key head
      · have front : ((head :: tail).filter keep).orderedInsert
            (fun first second => key first ≤ key second) item = item :: (head :: tail).filter keep := by
          cases kept : (head :: tail).filter keep with
          | nil => rfl
          | cons next later =>
              have member : next ∈ head :: tail := by
                apply List.mem_of_mem_filter (p := keep)
                rw [kept]
                exact .head _
              have above : key item ≤ key next := by
                rcases List.mem_cons.mp member with rfl | inside
                · exact below
                · exact le_trans below (least next inside)
              rw [List.orderedInsert_cons, if_pos above]
        rw [List.orderedInsert_cons, if_pos below, List.filter_cons, front]
      · rw [List.orderedInsert_cons, if_neg below, List.filter_cons, ih rest, List.filter_cons]
        by_cases shown : keep head = true
        · rw [if_pos shown, if_pos shown, List.orderedInsert_cons, if_neg below]
          split <;> rfl
        · rw [if_neg shown, if_neg shown]

/-- A filter of the sorted items is the sorted list of the filtered items. -/
theorem filter_sortedBy (items : List Item) :
    (sortedBy key items).filter keep = sortedBy key (items.filter keep) := by
  induction items with
  | nil => rfl
  | cons item rest ih =>
      change ((sortedBy key rest).orderedInsert (fun first second => key first ≤ key second)
        item).filter keep = _
      rw [filter_orderedInsert key keep item _ (sortedBy_pairwise key rest), ih, List.filter_cons]
      split <;> rfl

variable (relation : Item → Item → Prop)

/-- An insertion keeps a relation between equal keys when the new item relates to all others. -/
theorem orderedInsert_ties (item : Item) (sorted : List Item)
    (head : ∀ other ∈ sorted, key item = key other → relation item other)
    (ties : sorted.Pairwise fun first second => key first = key second → relation first second) :
    (sorted.orderedInsert (fun first second => key first ≤ key second) item).Pairwise
      fun first second => key first = key second → relation first second := by
  induction sorted with
  | nil => exact List.pairwise_singleton _ _
  | cons next later ih =>
      obtain ⟨nextTies, laterTies⟩ := List.pairwise_cons.mp ties
      simp only [List.orderedInsert]
      split
      · exact List.pairwise_cons.mpr ⟨head, ties⟩
      · rename_i above
        refine List.pairwise_cons.mpr ⟨fun other member => ?_, ?_⟩
        · rcases (List.mem_orderedInsert _).mp member with rfl | inside
          · exact fun equal => absurd (le_of_eq equal.symm) above
          · exact nextTies other inside
        · exact ih (fun other member => head other (.tail _ member)) laterTies

/-- Equal keys keep the relation that the source order gives them. -/
theorem sortedBy_pairwise_ties (items : List Item)
    (ties : items.Pairwise fun first second => key first = key second → relation first second) :
    (sortedBy key items).Pairwise fun first second =>
      key first = key second → relation first second := by
  induction items with
  | nil => exact List.Pairwise.nil
  | cons item rest ih =>
      obtain ⟨head, tail⟩ := List.pairwise_cons.mp ties
      exact orderedInsert_ties key relation item (sortedBy key rest)
        (fun other member => head other ((mem_sortedBy key rest other).mp member)) (ih tail)

/-- A sorted list is in order between equal keys of any kind. -/
theorem sortedBy_ties (condition : Item → Item → Prop) (items : List Item) :
    (sortedBy key items).Pairwise fun first second =>
      condition first second → key first ≤ key second := by
  apply List.Pairwise.imp _ (sortedBy_pairwise key items)
  intro first second below _
  exact below

variable {Tag : Type*} (tag : Item → Tag)

omit [LinearOrder Key] in
/-- Distinct tags determine the items of two lists from one source. -/
theorem eq_of_map_eq (source first second : List Item)
    (distinct : (source.map tag).Nodup) (firstSource : ∀ item ∈ first, item ∈ source)
    (secondSource : ∀ item ∈ second, item ∈ source) (same : first.map tag = second.map tag) :
    first = second := by
  induction first generalizing second with
  | nil => exact (List.map_eq_nil_iff.mp same.symm).symm
  | cons item rest ih =>
      cases second with
      | nil => simp at same
      | cons other later =>
          simp only [List.map_cons, List.cons.injEq] at same
          have sameItem := List.inj_on_of_nodup_map distinct
            (firstSource item (.head _)) (secondSource other (.head _)) same.1
          rw [sameItem, ih later (fun item member => firstSource item (List.mem_cons_of_mem _ member))
            (fun item member => secondSource item (.tail _ member)) same.2]

variable [LinearOrder Tag] (first second : List Item)

/-- Items with distinct tags have one order by key and then by tag. -/
theorem eq_of_perm_of_ties (perm : first.Perm second) (distinct : (first.map tag).Nodup)
    (firstOrder : first.Pairwise fun left right => key left ≤ key right)
    (secondOrder : second.Pairwise fun left right => key left ≤ key right)
    (firstTies : first.Pairwise fun left right => key left = key right → tag left ≤ tag right)
    (secondTies : second.Pairwise fun left right => key left = key right → tag left ≤ tag right) :
    first = second := by
  refine List.Perm.eq_of_pairwise ?_ (firstOrder.and firstTies) (secondOrder.and secondTies) perm
  rintro left right leftMember rightMember ⟨below, belowTie⟩ ⟨above, aboveTie⟩
  have sameKey := le_antisymm below above
  have sameTag := le_antisymm (belowTie sameKey) (aboveTie sameKey.symm)
  exact List.inj_on_of_nodup_map distinct leftMember (perm.mem_iff.mpr rightMember) sameTag

/-- A permutation of items with distinct keys has the same sorted list. -/
theorem sortedBy_eq_of_perm (perm : first.Perm second) (distinct : (first.map key).Nodup) :
    sortedBy key first = sortedBy key second := by
  have sortedPerm := (sortedBy_perm key first).trans (perm.trans (sortedBy_perm key second).symm)
  exact eq_of_perm_of_ties key key _ _ sortedPerm
    (((sortedBy_perm key first).map key).nodup_iff.mpr distinct)
    (sortedBy_pairwise key first) (sortedBy_pairwise key second)
    (sortedBy_ties key _ first) (sortedBy_ties key _ second)

/-- Sorting by tag first changes nothing exactly when equal keys already stand in tag order. -/
theorem sortedBy_sortedBy_eq_iff (items : List Item) (distinct : (items.map tag).Nodup) :
    sortedBy key (sortedBy tag items) = sortedBy key items ↔
      items.Pairwise fun first second => key first = key second → tag first < tag second := by
  have tagTies := sortedBy_pairwise_ties key (fun left right => tag left ≤ tag right)
    (sortedBy tag items) (sortedBy_ties tag _ items)
  constructor
  · intro same
    rw [List.pairwise_iff_forall_sublist]
    intro first second pair equal
    have inSorted : [first, second].Sublist (sortedBy key items) :=
      List.pair_sublist_insertionSort (le_of_eq equal) pair
    rw [← same] at inSorted
    have below := List.pairwise_iff_forall_sublist.mp tagTies inSorted equal
    have different := distinct.sublist (pair.map tag)
    simp only [List.map_cons, List.map_nil, List.nodup_cons, List.mem_singleton] at different
    exact lt_of_le_of_ne below different.1
  · intro ties
    refine eq_of_perm_of_ties key tag _ _ ?_ ?_ (sortedBy_pairwise key _)
      (sortedBy_pairwise key _) tagTies ?_
    · exact (sortedBy_perm key _).trans ((sortedBy_perm tag items).trans
        (sortedBy_perm key items).symm)
    · exact (((sortedBy_perm key _).trans (sortedBy_perm tag items)).map tag).nodup_iff.mpr distinct
    · exact sortedBy_pairwise_ties key _ items
        (ties.imp fun strict equal => le_of_lt (strict equal))

end AgentFabric.Sorting

namespace AgentFabric.LastEntry

variable {Item : Type*} {selects narrows : Item → Bool} {items : List Item} {item : Item}

/-- The last item of a list that is selected. -/
def lastWhere (selects : Item → Bool) (items : List Item) : Option Item :=
  items.reverse.find? selects

theorem lastWhere_append (selects : Item → Bool) (items : List Item) (item : Item) :
    lastWhere selects (items ++ [item]) =
      if selects item then some item else lastWhere selects items := by
  rw [lastWhere, List.reverse_append, List.reverse_singleton, List.singleton_append,
    List.find?_cons]
  cases selects item <;> rfl

theorem lastWhere_eq_none_iff :
    lastWhere selects items = none ↔ ∀ item ∈ items, selects item = false := by
  simp [lastWhere]

theorem mem_of_lastWhere (found : lastWhere selects items = some item) : item ∈ items :=
  List.mem_reverse.mp (List.mem_of_find?_eq_some found)

theorem selects_of_lastWhere (found : lastWhere selects items = some item) :
    selects item = true := List.find?_some found

/-- An item that is listed makes the last one exist. -/
theorem exists_lastWhere (member : item ∈ items) (selected : selects item = true) :
    ∃ last, lastWhere selects items = some last := by
  cases found : lastWhere selects items with
  | some last => exact ⟨last, rfl⟩
  | none =>
      rw [lastWhere_eq_none_iff] at found
      cases (found item member).symm.trans selected

/-- The last item of a selection is the last one of a narrower selection that it belongs to. -/
theorem lastWhere_narrow (implies : ∀ item, narrows item = true → selects item = true)
    (found : lastWhere selects items = some item) (narrow : narrows item = true) :
    lastWhere narrows items = some item := by
  unfold lastWhere at found ⊢
  generalize items.reverse = listed at found ⊢
  induction listed with
  | nil => cases found
  | cons first rest ih =>
      rw [List.find?_cons] at found ⊢
      cases wide : selects first with
      | true =>
          rw [wide] at found
          obtain rfl := Option.some.inj found
          rw [narrow]
      | false =>
          rw [wide] at found
          cases inside : narrows first with
          | true => cases (implies first inside).symm.trans wide
          | false => exact ih found

/-- In an ordered list every selected item is the last one or related to it. -/
theorem eq_or_before_lastWhere {before : Item → Item → Prop} (ordered : items.Pairwise before)
    {last : Item} (found : lastWhere selects items = some last) (member : item ∈ items)
    (selected : selects item = true) : item = last ∨ before item last := by
  induction items using List.reverseRecOn with
  | nil => cases member
  | append_singleton earlier added ih =>
      rw [lastWhere_append] at found
      obtain ⟨earlierOrdered, _, across⟩ := List.pairwise_append.mp ordered
      cases chosen : selects added with
      | true =>
          rw [chosen, if_pos rfl] at found
          obtain rfl := Option.some.inj found
          rcases List.mem_append.mp member with inside | same
          · exact .inr (across item inside added (.head _))
          · exact .inl (List.mem_singleton.mp same)
      | false =>
          rw [chosen, if_neg Bool.false_ne_true] at found
          rcases List.mem_append.mp member with inside | same
          · exact ih earlierOrdered found inside
          · rw [List.mem_singleton.mp same] at selected
            cases selected.symm.trans chosen

/-- The item with the greatest key is the last one of the sorted items. -/
theorem getLast?_sortedBy {Key : Type*} [LinearOrder Key] (key : Item → Key)
    (member : item ∈ items) (greatest : ∀ other ∈ items, other = item ∨ key other < key item) :
    (Sorting.sortedBy key items).getLast? = some item := by
  cases found : (Sorting.sortedBy key items).getLast? with
  | none =>
      have empty := List.getLast?_eq_none_iff.mp found
      have listed := (Sorting.mem_sortedBy key items item).mpr member
      rw [empty] at listed
      cases listed
  | some last =>
      obtain ⟨inside, above⟩ := Sorting.sortedBy_getLast? key items last found
      rcases greatest last inside with same | less
      · rw [same]
      · exact absurd (above item member) (not_le.mpr less)

section Keyed

variable {Key : Type*} [DecidableEq Key] {key : Item → Key} {name other : Key}
  {added : List Item}

/-- Entries under one key do not count under another one. -/
theorem filter_append_other (ofName : ∀ item ∈ added, key item = name) (different : other ≠ name) :
    (items ++ added).filter (fun item => key item = other) =
      items.filter fun item => key item = other := by
  have none : added.filter (fun item => key item = other) = [] := by
    rw [List.filter_eq_nil_iff]
    intro item member
    simp [ofName item member, different.symm]
  rw [List.filter_append, none, List.append_nil]

/-- The first entries under a key are all of its entries. -/
theorem filter_append_own (unnamed : ∀ item ∈ items, key item ≠ name)
    (ofName : ∀ item ∈ added, key item = name) :
    (items ++ added).filter (fun item => key item = name) = added := by
  have before : items.filter (fun item => key item = name) = [] := by
    rw [List.filter_eq_nil_iff]
    intro item member
    simpa using unnamed item member
  have after : added.filter (fun item => key item = name) = added := by
    rw [List.filter_eq_self]
    intro item member
    simpa using ofName item member
  rw [List.filter_append, before, after, List.nil_append]

end Keyed

end AgentFabric.LastEntry

namespace AgentFabric.Aligned
open Sorting

variable {Item Other Key Result : Type*} {related : Item → Other → Prop}

section Ordered

variable [LinearOrder Key] (key : Item → Key) (otherKey : Other → Key) {items : List Item}
  {others : List Other}

/-- Related items with equal keys go to the same place. -/
theorem orderedInsert_forall₂ (keys : ∀ item other, related item other → key item = otherKey other)
    {item : Item} {other : Other} (new : related item other) (all : List.Forall₂ related items others) :
    List.Forall₂ related (items.orderedInsert (fun first second => key first ≤ key second) item)
      (others.orderedInsert (fun first second => otherKey first ≤ otherKey second) other) := by
  induction all with
  | nil => exact .cons new .nil
  | cons head tail ih =>
      simp only [List.orderedInsert, keys _ _ new, keys _ _ head]
      split
      · exact .cons new (.cons head tail)
      · exact .cons head ih

/-- Lists of related items with equal keys stay related when both are sorted. -/
theorem sortedBy_forall₂ (keys : ∀ item other, related item other → key item = otherKey other)
    (all : List.Forall₂ related items others) :
    List.Forall₂ related (sortedBy key items) (sortedBy otherKey others) := by
  induction all with
  | nil => exact .nil
  | cons head _ ih => exact orderedInsert_forall₂ key otherKey keys head ih

end Ordered

variable {items : List Item} {others : List Other}

/-- A reader that succeeds on every related item succeeds on the list. -/
theorem mapM_forall₂ {Answer : Type} {Reader : Type → Type} [Monad Reader] [LawfulMonad Reader]
    (read : Item → Reader Answer) (agrees : Answer → Other → Prop)
    (reads : ∀ item other, related item other → ∃ result, read item = pure result ∧
      agrees result other) (all : List.Forall₂ related items others) :
    ∃ results, items.mapM read = pure results ∧ List.Forall₂ agrees results others := by
  induction all with
  | nil => exact ⟨[], List.mapM_nil, .nil⟩
  | cons head _ ih =>
      obtain ⟨result, found, agree⟩ := reads _ _ head
      obtain ⟨results, rest, agreeRest⟩ := ih
      refine ⟨result :: results, ?_, .cons agree agreeRest⟩
      rw [List.mapM_cons, found, pure_bind, rest, pure_bind]

/-- Every answer of a reader that succeeds on a list is read from an item. -/
theorem exists_of_mem_mapM_some {Answer : Type} {read : Item → Option Answer}
    {answers : List Answer} (answered : items.mapM read = some answers) :
    ∀ answer ∈ answers, ∃ item ∈ items, read item = some answer := by
  induction items generalizing answers with
  | nil =>
      cases answered
      simp
  | cons head rest ih =>
      rw [List.mapM_cons] at answered
      obtain ⟨first, headRead, later⟩ := Option.bind_eq_some_iff.mp answered
      obtain ⟨others, restRead, same⟩ := Option.bind_eq_some_iff.mp later
      cases same
      intro answer member
      rcases List.mem_cons.mp member with rfl | inside
      · exact ⟨head, .head _, headRead⟩
      · obtain ⟨item, source, itemRead⟩ := ih restRead answer inside
        exact ⟨item, List.mem_cons_of_mem _ source, itemRead⟩

/-- Two lists agree under two maps exactly when their items agree in order. -/
theorem map_eq_map_iff_forall₂ (f : Item → Key) (g : Other → Key) (items : List Item)
    (others : List Other) :
    items.map f = others.map g ↔ List.Forall₂ (fun item other => f item = g other) items others := by
  rw [← List.forall₂_eq_eq_eq, List.forall₂_map_left_iff, List.forall₂_map_right_iff]

/-- Every item of the second list has its partner in the first. -/
theorem exists_related (all : List.Forall₂ related items others) :
    ∀ other ∈ others, ∃ item ∈ items, related item other := by
  induction all with
  | nil => simp
  | cons head _ ih =>
      intro other member
      rcases List.mem_cons.mp member with rfl | inside
      · exact ⟨_, .head _, head⟩
      · obtain ⟨item, found, held⟩ := ih other inside
        exact ⟨item, List.mem_cons_of_mem _ found, held⟩

/-- Partners of the items form a list. -/
theorem exists_forall₂ (all : ∀ item ∈ items, ∃ other, related item other) :
    ∃ others, List.Forall₂ related items others := by
  induction items with
  | nil => exact ⟨[], .nil⟩
  | cons item rest ih =>
      obtain ⟨other, held⟩ := all item (.head _)
      obtain ⟨others, rests⟩ := ih fun later inside => all later (.tail _ inside)
      exact ⟨other :: others, .cons held rests⟩

section Rows

variable {Row Tag : Type*} (tag : Item → Tag) (holds : Row → Item → Prop)
  (rows : List (Tag × Row)) (items : List Item)

/-- Every row names one item that it holds. -/
theorem exists_forall₂_of_rows
    (sources : ∀ row ∈ rows, ∃ item ∈ items, tag item = row.1 ∧ holds row.2 item) :
    ∃ ordered, (∀ item ∈ ordered, item ∈ items) ∧ ordered.map tag = rows.map Prod.fst ∧
      List.Forall₂ holds (rows.map Prod.snd) ordered := by
  induction rows with
  | nil => exact ⟨[], by simp, rfl, .nil⟩
  | cons row rest ih =>
      obtain ⟨item, member, sameTag, held⟩ := sources row (.head _)
      obtain ⟨ordered, members, tags, all⟩ := ih fun other later => sources other (.tail _ later)
      refine ⟨item :: ordered, ?_, ?_, .cons held all⟩
      · intro found inside
        rcases List.mem_cons.mp inside with rfl | later
        · exact member
        · exact members found later
      · rw [List.map_cons, List.map_cons, sameTag, tags]

/-- Rows under distinct tags that hold all items list them in some order. -/
theorem exists_perm_forall₂_of_rows (rowTags : (rows.map Prod.fst).Nodup)
    (itemTags : (items.map tag).Nodup)
    (sources : ∀ row ∈ rows, ∃ item ∈ items, tag item = row.1 ∧ holds row.2 item)
    (stored : ∀ item ∈ items, tag item ∈ rows.map Prod.fst) :
    ∃ ordered, ordered.Perm items ∧ List.Forall₂ holds (rows.map Prod.snd) ordered := by
  obtain ⟨ordered, members, tags, all⟩ := exists_forall₂_of_rows tag holds rows items sources
  refine ⟨ordered, ?_, all⟩
  have orderedTags : (ordered.map tag).Nodup := tags ▸ rowTags
  rw [List.perm_ext_iff_of_nodup orderedTags.of_map itemTags.of_map]
  intro item
  constructor
  · exact members item
  · intro member
    have tagged : tag item ∈ ordered.map tag := tags ▸ stored item member
    obtain ⟨other, found, sameTag⟩ := List.mem_map.mp tagged
    have same := List.inj_on_of_nodup_map itemTags (members other found) member sameTag
    exact same ▸ found

end Rows

end AgentFabric.Aligned

namespace AgentFabric.PartialUpdates

variable {Update Value : Type*} (field : Update → Option Value)

/-- The value that a history of updates leaves, each of which may give a new one. -/
def latest (history : List Update) (value : Value) : Value :=
  history.foldl (fun value update => (field update).getD value) value

variable (earlier : List Update)

@[simp] theorem latest_append_singleton (final : Update) (value : Value) :
    latest field (earlier ++ [final]) value = (field final).getD (latest field earlier value) := by
  simp [latest]

/-- The last update alone leaves the value of the history exactly when it gives this value or the
earlier updates kept the first one. -/
theorem getD_eq_latest_iff (final : Update) (value : Value) :
    (field final).getD value = latest field (earlier ++ [final]) value ↔
      (field final = none → latest field earlier value = value) := by
  rw [latest_append_singleton]
  cases given : field final with
  | none => simp [eq_comm]
  | some new => simp

end AgentFabric.PartialUpdates
