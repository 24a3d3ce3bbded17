import AgentFabric.Construction.Marketplace.Registry
import AgentFabric.Foundation.Comprehension
import AgentFabric.Foundation.DottedText
import AgentFabric.Foundation.GraphSearch

namespace AgentFabric.Marketplace
open Sorting DottedText

namespace MarketplaceRegistryService

variable (published : List PackageVersion)

/-- The registry after versions were saved in their order. -/
def saved : MarketplaceRegistryService :=
  published.foldl saveVersion Dict.empty

/-- Every version stands under its own key. -/
def Named (registry : MarketplaceRegistryService) : Prop :=
  ∀ key package, registry.get? key = some package → package.key = key

theorem Named.saveVersion {registry : MarketplaceRegistryService} (named : registry.Named)
    (package : PackageVersion) : (registry.saveVersion package).Named := by
  intro key found present
  rw [MarketplaceRegistryService.saveVersion, Dict.get?_set] at present
  split at present
  · rename_i same
    obtain rfl := Option.some.inj present
    exact same.symm
  · exact named key found present

theorem saved_named : (saved published).Named := by
  suffices kept : ∀ registry : MarketplaceRegistryService, registry.Named →
      (published.foldl saveVersion registry).Named by
    exact kept Dict.empty fun _ _ found => by cases found
  induction published with
  | nil => exact fun _ named => named
  | cons package rest ih => exact fun _ named => ih _ (named.saveVersion package)

section Listed

variable {registry : MarketplaceRegistryService} {packageId : String}

theorem mem_versionsOf_iff {package : PackageVersion} :
    package ∈ registry.versionsOf packageId ↔
      (∃ key, registry.get? key = some package) ∧ package.packageId = packageId := by
  simp [versionsOf, listPackages, Collection.mem_rows_iff]

/-- The versions of one package have distinct texts. -/
theorem Named.versions_distinct (named : registry.Named) (packageId : String) :
    ((registry.versionsOf packageId).map PackageVersion.version).Nodup := by
  have keys : ((registry.versionsOf packageId).map PackageVersion.key).Nodup :=
    (Collection.rows_map_nodup registry PackageVersion.key named).sublist
      (List.filter_sublist.map PackageVersion.key)
  have keyed : (registry.versionsOf packageId).map PackageVersion.key =
      ((registry.versionsOf packageId).map PackageVersion.version).map
        fun version => packageId ++ ":" ++ version := by
    rw [List.map_map]
    refine List.map_congr_left ?_
    intro package member
    rw [Function.comp_apply, PackageVersion.key, (mem_versionsOf_iff.mp member).2]
  rw [keyed] at keys
  exact keys.of_map _

/-- Two versions of one package with one text are one. -/
theorem Named.eq_of_version (named : registry.Named)
    {first second : PackageVersion} (firstListed : first ∈ registry.versionsOf packageId)
    (secondListed : second ∈ registry.versionsOf packageId)
    (same : first.version = second.version) : first = second :=
  List.inj_on_of_nodup_map (named.versions_distinct packageId) firstListed secondListed same

end Listed

end MarketplaceRegistryService

open MarketplaceRegistryService

variable (versions : List PackageVersion)

/-- No version of a list has a greater text. -/
def TextGreatest (package : PackageVersion) : Prop :=
  package ∈ versions ∧ ∀ other ∈ versions, other.version ≤ package.version

theorem latest_returns (present : versions ≠ []) :
    ∃ package, VersionResolver.latest versions = .ok package ∧ TextGreatest versions package := by
  unfold VersionResolver.latest
  cases found : (sortedBy PackageVersion.version versions).getLast? with
  | none =>
      have empty := List.getLast?_eq_none_iff.mp found
      have lengths := length_sortedBy PackageVersion.version versions
      rw [empty, List.length_nil] at lengths
      exact absurd (List.length_eq_zero_iff.mp lengths.symm) present
  | some package => exact ⟨package, rfl, sortedBy_getLast? _ _ _ found⟩

section Available

/-- The dict holds the version with the greatest text of each package among the seen ones. -/
def KeepsLatest (seen : List PackageVersion) (latest : Dict String PackageVersion) : Prop :=
  ∀ packageId, match latest.get? packageId with
    | none => ∀ package ∈ seen, package.packageId ≠ packageId
    | some package =>
        TextGreatest (seen.filter fun other => other.packageId = packageId) package

/-- The version that stays of two with one package id. -/
def laterText (existing package : PackageVersion) : PackageVersion :=
  if existing.version < package.version then package else existing

theorem keepLatest_get? (latest : Dict String PackageVersion) (package : PackageVersion)
    (packageId : String) :
    (keepLatest latest package).get? packageId =
      if packageId = package.packageId then
        some (((latest.get? packageId).map (laterText · package)).getD package)
      else latest.get? packageId := by
  unfold keepLatest
  by_cases own : packageId = package.packageId
  · rw [if_pos own, own]
    cases found : latest.get? package.packageId with
    | none => exact Dict.get?_set_self _ _ _
    | some existing =>
        simp only [Option.map_some, Option.getD_some, laterText]
        split
        · exact Dict.get?_set_self _ _ _
        · exact found
  · rw [if_neg own]
    split
    · exact Dict.get?_set_of_ne _ _ own
    · split
      · exact Dict.get?_set_of_ne _ _ own
      · rfl

/-- One more version of a list. -/
theorem TextGreatest.append {versions : List PackageVersion} {existing : PackageVersion}
    (greatest : TextGreatest versions existing) (package : PackageVersion) :
    TextGreatest (versions ++ [package]) (laterText existing package) := by
  unfold laterText
  split
  · rename_i smaller
    refine ⟨by simp, ?_⟩
    rw [List.forall_mem_append, List.forall_mem_singleton]
    exact ⟨fun other member => (greatest.2 other member).trans smaller.le, le_refl _⟩
  · rename_i notSmaller
    refine ⟨List.mem_append_left _ greatest.1, ?_⟩
    rw [List.forall_mem_append, List.forall_mem_singleton]
    exact ⟨greatest.2, not_lt.mp notSmaller⟩

theorem KeepsLatest.step {seen : List PackageVersion} {latest : Dict String PackageVersion}
    (kept : KeepsLatest seen latest) (package : PackageVersion) :
    KeepsLatest (seen ++ [package]) (keepLatest latest package) := by
  intro packageId
  have before := kept packageId
  rw [keepLatest_get?, List.filter_append]
  by_cases own : packageId = package.packageId
  · subst own
    rw [if_pos rfl, List.filter_singleton, decide_eq_true rfl, cond_true]
    cases found : latest.get? package.packageId with
    | none =>
        rw [found] at before
        have nothing : seen.filter (fun other => other.packageId = package.packageId) = [] := by
          rw [List.filter_eq_nil_iff]
          intro other member
          simpa using before other member
        simp [TextGreatest, nothing]
    | some existing =>
        rw [found] at before
        exact before.append package
  · have nothing : [package].filter (fun other => other.packageId = packageId) = [] := by
      simp [Ne.symm own]
    rw [if_neg own, nothing, List.append_nil]
    cases found : latest.get? packageId with
    | none =>
        rw [found] at before
        show ∀ other ∈ seen ++ [package], other.packageId ≠ packageId
        rw [List.forall_mem_append, List.forall_mem_singleton]
        exact ⟨before, Ne.symm own⟩
    | some existing =>
        rw [found] at before
        exact before

theorem keepsLatest_foldl (rows : List PackageVersion) :
    KeepsLatest rows (rows.foldl keepLatest Dict.empty) := by
  induction rows using List.reverseRecOn with
  | nil =>
      intro packageId
      simp
  | append_singleton rows package ih =>
      rw [List.foldl_append]
      exact ih.step package

end Available

/-- A registry selects the version of a package with the greatest text. -/
theorem selects_textGreatest {registry : MarketplaceRegistryService} (named : registry.Named)
    (packageId : String) (present : registry.versionsOf packageId ≠ []) :
    ∃ package, TextGreatest (registry.versionsOf packageId) package ∧
      registry.get packageId none = .ok package ∧
      registry.availableById.get? packageId = some package ∧
      VersionResolver.compatible (registry.versionsOf packageId) (some "*") = .ok package := by
  obtain ⟨package, latest, greatest⟩ := latest_returns _ present
  refine ⟨package, greatest, ?_, ?_, ?_⟩
  · rw [MarketplaceRegistryService.get]
    simp only [if_neg present, Option.filter_none]
    exact latest
  · have kept := keepsLatest_foldl (registry.listPackages none) packageId
    change match registry.availableById.get? packageId with
      | none => _
      | some package => _ at kept
    cases found : registry.availableById.get? packageId with
    | none =>
        rw [found] at kept
        obtain ⟨listed, own⟩ := List.mem_filter.mp greatest.1
        exact absurd (of_decide_eq_true own) (kept package listed)
    | some other =>
        rw [found] at kept
        have same := named.eq_of_version kept.1 greatest.1
          (le_antisymm (greatest.2 other kept.1) (kept.2 package greatest.1))
        rw [same]
  · have all : (registry.versionsOf packageId).filter
        (fun package => VersionResolver.isCompatible package.version "*") =
          registry.versionsOf packageId := by
      rw [List.filter_eq_self]
      intro other _
      simp [VersionResolver.isCompatible, compatibleText]
    rw [VersionResolver.compatible, if_neg (by decide), all]
    exact latest

/-- A least version in digits and dots is compared as a text. -/
theorem compatibleText_least {version bound : String} (versionDotted : DottedNumeric version)
    (boundDotted : DottedNumeric bound) :
    compatibleText version (">=" ++ bound) = true ↔ bound ≤ version := by
  have text : (">=" ++ bound).toList = '>' :: '=' :: bound.toList := by
    rw [String.toList_append]
    rfl
  have named : ">=" ++ bound ∉ ["*", version] := by
    rw [List.mem_cons, List.mem_singleton, not_or]
    refine ⟨?_, ?_⟩
    · intro same
      have heads := congrArg (fun shown : String => shown.toList.head?) same
      simp only [text, List.head?_cons] at heads
      exact absurd heads (by decide)
    · intro same
      have member : '>' ∈ version.toList := by
        rw [← same, text]
        exact .head _
      rcases versionDotted.chars member with dot | digit
      · exact absurd dot (by decide)
      · exact absurd digit (by decide)
  have ends : endsWith (">=" ++ bound) ".x" = false := by
    rw [Bool.eq_false_iff]
    intro found
    rw [endsWith, text, List.isSuffixOf_iff_suffix] at found
    have member : 'x' ∈ '>' :: '=' :: bound.toList := found.subset (by decide)
    simp only [List.mem_cons, show ('x' : Char) ≠ '>' by decide, show ('x' : Char) ≠ '=' by decide,
      false_or] at member
    rcases boundDotted.chars member with dot | digit
    · exact absurd dot (by decide)
    · exact absurd digit (by decide)
  have starts : startsWith (">=" ++ bound) ">=" = true := by
    rw [startsWith, text]
    simp [List.isPrefixOf]
  rw [compatibleText, if_neg named, ends, if_neg (by decide), if_pos starts, text]
  simp

section Claims

variable (registry : MarketplaceRegistryService) (packageId bound : String)

/-- The three selections return one version, whose numbers are the greatest of the package. -/
def SelectsGreatest : Prop :=
  ∃ greatest ∈ registry.versionsOf packageId,
    (∀ other ∈ registry.versionsOf packageId, numbers other.version ≤ numbers greatest.version) ∧
    registry.get packageId none = .ok greatest ∧
    registry.availableById.get? packageId = some greatest ∧
    VersionResolver.compatible (registry.versionsOf packageId) (some "*") = .ok greatest

/-- Both checks of a least version accept exactly the versions with at least its numbers. -/
def AcceptsLeast : Prop :=
  ∀ package ∈ registry.versionsOf packageId,
    (VersionResolver.isCompatible package.version (">=" ++ bound) = true ↔
      numbers bound ≤ numbers package.version) ∧
    (ConflictDetector.isCompatible package.version (">=" ++ bound) = true ↔
      numbers bound ≤ numbers package.version)

/-- Where two versions first differ, their texts are in the order of their numbers: one version of the
package is not behind any other one, and the least version compares with each of them. -/
def TextOrderIsNumeric : Prop :=
  (∃ top ∈ registry.versionsOf packageId, ∀ other ∈ registry.versionsOf packageId,
    DifferBy digitsValue (· ≤ ·) (parts '.' other.version.toList) (parts '.' top.version.toList)) ∧
  ∀ package ∈ registry.versionsOf packageId,
    DifferBy digitsValue (· ≤ ·) (parts '.' bound.toList) (parts '.' package.version.toList) ∨
    DifferBy digitsValue (· < ·) (parts '.' package.version.toList) (parts '.' bound.toList)

end Claims

/-- The selections and the checks are numeric exactly when the text order is numeric where the versions
of the package first differ. -/
theorem selection_numeric_iff (published : List PackageVersion) (packageId bound : String)
    (present : (saved published).versionsOf packageId ≠ [])
    (dotted : ∀ package ∈ (saved published).versionsOf packageId, DottedNumeric package.version)
    (boundDotted : DottedNumeric bound) :
    SelectsGreatest (saved published) packageId ∧ AcceptsLeast (saved published) packageId bound ↔
      TextOrderIsNumeric (saved published) packageId bound := by
  have named := saved_named published
  obtain ⟨package, ⟨member, greatest⟩, got, available, compatible⟩ :=
    selects_textGreatest named packageId present
  refine and_congr ?_ ?_
  · constructor
    · rintro ⟨selected, listed, numeric, selectedGot, _, _⟩
      obtain rfl := Except.ok.inj (got.symm.trans selectedGot)
      refine ⟨package, member, ?_⟩
      intro other inside
      rw [differBy_le_iff, ← (dotted other inside).le_iff (dotted package member)]
      exact ⟨greatest other inside, numeric other inside⟩
    · rintro ⟨top, listed, ahead⟩
      have order (other : PackageVersion) (inside : other ∈ (saved published).versionsOf packageId) :
          other.version ≤ top.version ∧ numbers other.version ≤ numbers top.version := by
        have facts := ahead other inside
        rwa [differBy_le_iff, ← (dotted other inside).le_iff (dotted top listed)] at facts
      obtain rfl := named.eq_of_version listed member
        (le_antisymm (greatest top listed) (order package member).1)
      exact ⟨top, listed, fun other inside => (order other inside).2, got, available, compatible⟩
  · refine forall₂_congr fun other inside => ?_
    rw [VersionResolver.isCompatible, ConflictDetector.isCompatible,
      compatibleText_least (dotted other inside) boundDotted, and_self,
      boundDotted.le_iff (dotted other inside)]
    exact orders_agree_iff digitsValue _ _

section Example

/-- A version of a package without dependencies. -/
def plainVersion (packageId version : String) : PackageVersion where
  manifest := {
    packageId, version
    name := packageId
    publisherTenantId := "tenant-a"
    agentIdentityId := "agent"
    runtimeRequirements := []
    toolPermissions := []
    connectorRequirements := []
    connectorPermissions := []
    dependencies := []
    licenseType := "free"
    pricingModel := "free" }
  manifestHash := ""
  signature := "signature"
  publisherFingerprint := ""
  metadata := .default
  createdAt := .first
  publishedAt := .first

/-- Versions with one digit in each part are selected by their numbers. -/
theorem selection_numeric_digits :
    let registry := saved [plainVersion "pack" "1.9.0", plainVersion "pack" "2.0"]
    SelectsGreatest registry "pack" ∧ AcceptsLeast registry "pack" "1.9.1" := by
  intro registry
  have listed : registry.versionsOf "pack" =
      [plainVersion "pack" "1.9.0", plainVersion "pack" "2.0"] := by rfl
  refine (selection_numeric_iff _ _ _ ?_ ?_ (by decide)).mpr ⟨?_, ?_⟩
  · rw [listed]
    simp
  · rw [listed]
    decide
  · rw [listed]
    exact ⟨plainVersion "pack" "2.0", by simp, by decide⟩
  · rw [listed]
    decide

/-- The tenth minor version is not selected, and a constraint on the ninth one refuses it. -/
theorem selection_not_numeric :
    let registry := saved [plainVersion "pack" "1.9.0", plainVersion "pack" "1.10.0"]
    registry.get "pack" none = .ok (plainVersion "pack" "1.9.0") ∧
    numbers "1.9.0" < numbers "1.10.0" ∧
    VersionResolver.isCompatible "1.10.0" ">=1.9.0" = false ∧
    ConflictDetector.isCompatible "1.10.0" ">=1.9.0" = false ∧
    ¬ SelectsGreatest registry "pack" ∧ ¬ AcceptsLeast registry "pack" "1.9.0" := by
  intro registry
  have listed : registry.versionsOf "pack" =
      [plainVersion "pack" "1.10.0", plainVersion "pack" "1.9.0"] := by rfl
  have got : registry.get "pack" none = .ok (plainVersion "pack" "1.9.0") := by rfl
  refine ⟨got, by decide, by decide, by decide, ?_, ?_⟩
  · rintro ⟨greatest, _, numeric, selected, _⟩
    obtain rfl := Except.ok.inj (got.symm.trans selected)
    have below := numeric (plainVersion "pack" "1.10.0") (by simp [listed])
    exact absurd below (by decide)
  · intro accepts
    have tenth := (accepts (plainVersion "pack" "1.10.0") (by simp [listed])).1
    exact absurd (tenth.mpr (by decide)) (by decide)

end Example

end AgentFabric.Marketplace

namespace AgentFabric.Marketplace.DependencyGraph
open DepthFirst

/-- The search of the graph as a depth-first search. -/
def toSearch (search : CycleSearch) : Search String (List String) where
  visiting := search.visiting
  visited := search.visited
  reports := search.cycles

/-- What the graph appends for a path that comes back to a node. -/
def cycleReport (path : List String) (node : String) : List String :=
  path.dropWhile (fun earlier => earlier ≠ node) ++ [node]

section Depth

variable {children : String → List String} {nodes : List String}

/-- With more depth than nodes to enter, the recursion goes through the search. -/
theorem visit_explores (closed : ∀ node ∈ nodes, ∀ child ∈ children node, child ∈ nodes)
    (depth : Nat) (search : CycleSearch) (node : String) (path : List String) (known : node ∈ nodes)
    (deep : (unentered nodes search.visiting).length < depth) :
    Explores children cycleReport path [node] (toSearch search)
      (toSearch (visit children depth search node (path ++ [node]))) := by
  induction depth generalizing search node path with
  | zero => omega
  | succ depth ih =>
      unfold visit
      split
      · rename_i visiting
        exact .again visiting (.nil _ _)
      rename_i left
      split
      · rename_i visited
        exact .known left visited (.nil _ _)
      rename_i fresh
      have level (others : List String) (inside : ∀ other ∈ others, other ∈ nodes)
          (current : CycleSearch) (stack : current.visiting = node :: search.visiting) :
          Explores children cycleReport (path ++ [node]) others (toSearch current)
            (toSearch (others.foldl (fun search child =>
              visit children depth search child (path ++ [node] ++ [child])) current)) := by
        induction others generalizing current with
        | nil => exact .nil _ _
        | cons other rest levelIh =>
            have shallow : (unentered nodes current.visiting).length < depth := by
              have fewer := unentered_lt known left
              rw [stack]
              omega
            have first := ih current other (path ++ [node]) (inside other (.head _)) shallow
            have kept : (visit children depth current other (path ++ [node] ++ [other])).visiting =
                node :: search.visiting := first.visiting.trans stack
            exact first.append (levelIh (fun later member =>
              inside later (.tail _ member)) _ kept)
      apply Explores.enter left fresh
      · exact level (children node) (closed node known)
          { search with visiting := node :: search.visiting } rfl
      · exact .nil _ _

end Depth

variable (packages : List PackageVersion)

theorem mem_listed {packages : List PackageVersion} {packageId : String} :
    packageId ∈ (byId packages).items.map Prod.fst ↔
      packageId ∈ packages.map PackageVersion.packageId := by
  have same : byId packages = Dict.empty.setAll
      (packages.map fun package => (package.packageId, package)) := by
    unfold byId Dict.setAll
    rw [List.foldl_map]
  rw [same, Dict.keys_setAll, List.map_map]
  exact or_iff_right (List.not_mem_nil)

theorem edge_listed {packages : List PackageVersion} {node child : String}
    (edge : Edge (edges packages) node child) : node ∈ packages.map PackageVersion.packageId := by
  obtain ⟨package, member, _⟩ := List.mem_flatMap.mp edge
  obtain ⟨listed, same⟩ := List.mem_filter.mp member
  rw [decide_eq_true_eq] at same
  exact List.mem_map.mpr ⟨package, listed, same⟩

/-- The recursion of the graph ends, and its cycles are the reports of the search. -/
theorem detectCycles_explores :
    ∃ result, Explores (edges packages) cycleReport [] ((byId packages).items.map Prod.fst)
      Search.start result ∧ result.reports = detectCycles packages := by
  let roots := (byId packages).items.map Prod.fst
  let nodes := roots ++ roots.flatMap (edges packages)
  have closed : ∀ node ∈ nodes, ∀ child ∈ edges packages node, child ∈ nodes := by
    intro node _ child edge
    have listed : node ∈ roots := mem_listed.mpr (edge_listed edge)
    exact List.mem_append_right _ (List.mem_flatMap.mpr ⟨node, listed, edge⟩)
  have level (others : List String) (inside : ∀ other ∈ others, other ∈ nodes)
      (current : CycleSearch) (stack : current.visiting = []) :
      Explores (edges packages) cycleReport [] others (toSearch current)
        (toSearch (others.foldl (fun search root =>
          visit (edges packages) (nodes.length + 1) search root [root]) current)) := by
    induction others generalizing current with
    | nil => exact .nil _ _
    | cons other rest ih =>
        have deep : (unentered nodes current.visiting).length < nodes.length + 1 :=
          Nat.lt_succ_of_le (List.length_filter_le _ _)
        have first := visit_explores closed (nodes.length + 1) current other []
          (inside other (.head _)) deep
        have kept : (visit (edges packages) (nodes.length + 1) current other
            ([] ++ [other])).visiting = [] := first.visiting.trans stack
        exact first.append (ih (fun later member => inside later (.tail _ member)) _
          kept)
  exact ⟨_, level roots (fun other member => List.mem_append_left _ member) ⟨[], [], []⟩ rfl, rfl⟩

/-- A cycle of dependencies that the listed packages reach. -/
def HasReachableCycle : Prop :=
  ∃ package ∈ packages, ∃ node,
    Relation.ReflTransGen (Edge (edges packages)) package.packageId node ∧
      Relation.TransGen (Edge (edges packages)) node node

/-- Every node of a cycle is listed. -/
theorem hasReachableCycle_iff :
    HasReachableCycle packages ↔ ∃ node, Relation.TransGen (Edge (edges packages)) node node := by
  constructor
  · rintro ⟨_, _, node, _, cycle⟩
    exact ⟨node, cycle⟩
  · rintro ⟨node, cycle⟩
    obtain ⟨child, edge, _⟩ := Relation.TransGen.head'_iff.mp cycle
    obtain ⟨package, listed, same⟩ := List.mem_map.mp (edge_listed edge)
    exact ⟨package, listed, node, same ▸ .refl, cycle⟩

/-- No cycle is reported exactly when none can be reached. -/
theorem detectCycles_eq_nil_iff : detectCycles packages = [] ↔ ¬ HasReachableCycle packages := by
  obtain ⟨result, explores, reports⟩ := detectCycles_explores packages
  rw [hasReachableCycle_iff, ← reports]
  exact explores.reports_eq_nil_iff fun node child edge => mem_listed.mpr (edge_listed edge)

/-- Every reported list is a simple cycle with its last node once more. -/
theorem detectCycles_doubled {cycle : List String} (reported : cycle ∈ detectCycles packages) :
    ∃ node inner, cycle = node :: inner ++ [node] ++ [node] ∧
      SimpleCycle (edges packages) (node :: inner ++ [node]) := by
  obtain ⟨result, explores, reports⟩ := detectCycles_explores packages
  rw [← reports] at reported
  have genuine : Genuine (edges packages) cycleReport cycle := by
    apply explores.genuine rfl List.nodup_nil _ _ cycle reported
    · exact fun node _ => List.isChain_singleton node
    · intro other none
      cases none
  obtain ⟨before, node, inner, rfl, absent, simple⟩ := genuine
  refine ⟨node, inner, ?_, simple⟩
  have skipped : (before ++ (node :: inner ++ [node])).dropWhile (fun earlier => earlier ≠ node) =
      node :: inner ++ [node] := by
    rw [List.dropWhile_append_of_pos]
    · exact List.dropWhile_cons_of_neg (by simp)
    · intro earlier member
      rw [decide_eq_true_eq]
      rintro rfl
      exact absent member
  rw [cycleReport, List.append_assoc, skipped]

/-- A simple cycle with its last node once more is no simple cycle. -/
theorem not_simpleCycle_doubled {children : String → List String} {node : String}
    {inner : List String} : ¬ SimpleCycle children (node :: inner ++ [node] ++ [node]) := by
  rintro ⟨first, rest, same, distinct, _⟩
  have body : node :: inner ++ [node] = first :: rest := List.append_inj_left' same rfl
  rw [← body, List.nodup_append] at distinct
  exact distinct.2.2 node (.head _) node (List.mem_singleton_self node) rfl

/-- The search ends, it is silent exactly without a reachable cycle, and what it returns are simple
cycles, exactly for packages that reach no cycle. -/
theorem detectCycles_genuine_iff :
    ((∃ result, Explores (edges packages) cycleReport [] ((byId packages).items.map Prod.fst)
        Search.start result ∧ result.reports = detectCycles packages) ∧
      (detectCycles packages = [] ↔ ¬ HasReachableCycle packages) ∧
      ∀ cycle ∈ detectCycles packages, SimpleCycle (edges packages) cycle) ↔
    ¬ HasReachableCycle packages := by
  constructor
  · rintro ⟨_, _, simple⟩ cyclic
    have reported : detectCycles packages ≠ [] := by
      rw [Ne, detectCycles_eq_nil_iff]
      exact not_not.mpr cyclic
    obtain ⟨cycle, member⟩ := List.exists_mem_of_ne_nil _ reported
    obtain ⟨node, inner, rfl, _⟩ := detectCycles_doubled packages member
    exact not_simpleCycle_doubled (simple _ member)
  · intro acyclic
    refine ⟨detectCycles_explores packages, detectCycles_eq_nil_iff packages, ?_⟩
    rw [(detectCycles_eq_nil_iff packages).mpr acyclic]
    intro cycle none
    cases none

section Example

/-- A package with required dependencies on any version and with tool permissions. -/
def dependentPackage (packageId : String) (dependencies permissions : List String) :
    PackageVersion :=
  let plain := plainVersion packageId "1.0.0"
  { plain with manifest := { plain.manifest with
      toolPermissions := permissions
      dependencies := dependencies.map fun dependency => ⟨dependency, "*", true, false⟩ } }

/-- Two packages that need each other are reported with the first one three times. -/
theorem detectCycles_not_genuine :
    detectCycles [dependentPackage "a" ["b"] [], dependentPackage "b" ["a"] []] =
        [["a", "b", "a", "a"]] ∧
      ¬ SimpleCycle (edges [dependentPackage "a" ["b"] [], dependentPackage "b" ["a"] []])
        ["a", "b", "a", "a"] :=
  ⟨by decide, @not_simpleCycle_doubled _ "a" ["b"]⟩

end Example

end AgentFabric.Marketplace.DependencyGraph

namespace AgentFabric.Marketplace.DependencyResolver
open DepthFirst

section Closure

variable (available : Dict String PackageVersion)

/-- A dependency that is there when it is required, not deprecated and compatible. -/
structure SoundDependency (dependency : PackageDependency) : Prop where
  present : dependency.required = true → (available.get? dependency.packageId).isSome = true
  current : dependency.deprecated = false
  compatible : ∀ package, available.get? dependency.packageId = some package →
    ConflictDetector.isCompatible package.version dependency.versionConstraint = true

/-- The second package is the available one of a dependency of the first. -/
def Needs (package needed : PackageVersion) : Prop :=
  ∃ dependency ∈ package.manifest.dependencies, available.get? dependency.packageId = some needed

/-- The packages that a package needs directly or through others, and the package itself. -/
def InClosure (package member : PackageVersion) : Prop :=
  Relation.ReflTransGen (Needs available) package member

/-- An id in the closure declares a dependency on another id. -/
def ClosureEdge (package : PackageVersion) (source target : String) : Prop :=
  ∃ member, InClosure available package member ∧ member.packageId = source ∧
    target ∈ member.manifest.dependencies.map PackageDependency.packageId

/-- The closure has no cycle, no package with a forbidden permission besides the package itself and no
unsound dependency, and it is what was resolved. -/
structure SafeClosure (package : PackageVersion) (resolved : List PackageVersion) : Prop where
  acyclic : ¬ ∃ packageId, Relation.TransGen (ClosureEdge available package) packageId packageId
  permitted : ∀ member, InClosure available package member → member ≠ package →
    ∀ permission ∈ member.manifest.toolPermissions, permission ∉ unsafeDependencyPermissions
  sound : ∀ member, InClosure available package member →
    ∀ dependency ∈ member.manifest.dependencies, SoundDependency available dependency
  exact : ∀ member, member ∈ resolved ↔ InClosure available package member

/-- The direct dependencies have sound dependencies only, and need nothing that the package does not
need itself. -/
def Flat (package : PackageVersion) : Prop :=
  ∀ direct, Needs available package direct →
    (∀ dependency ∈ direct.manifest.dependencies, SoundDependency available dependency) ∧
      ∀ needed, Needs available direct needed → needed = package ∨ Needs available package needed

variable {available} {package : PackageVersion} {resolved : List PackageVersion}

theorem checkDependency_eq_ok_iff (dependency : PackageDependency) :
    ConflictDetector.checkDependency available dependency = .ok () ↔
      SoundDependency available dependency := by
  unfold ConflictDetector.checkDependency
  dsimp only
  split
  · rename_i missing
    refine iff_of_false (by simp) fun sound => ?_
    have present := sound.present missing.1
    rw [Option.isSome_iff_ne_none] at present
    exact present (Option.isNone_iff_eq_none.mp missing.2)
  rename_i present
  split
  · rename_i deprecated
    refine iff_of_false (by simp) fun sound => ?_
    rw [sound.current] at deprecated
    cases deprecated
  rename_i current
  split
  · rename_i incompatible
    refine iff_of_false (by simp) fun sound => ?_
    cases found : available.get? dependency.packageId with
    | none =>
        rw [found] at incompatible
        cases incompatible
    | some resolved =>
        rw [found, Option.any_some, sound.compatible resolved found] at incompatible
        cases incompatible
  · rename_i compatible
    refine iff_of_true rfl ⟨?_, ?_, ?_⟩
    · intro required
      by_contra missing
      exact present ⟨required, by simpa using missing⟩
    · exact Bool.eq_false_iff.mpr current
    · intro found same
      rw [same] at compatible
      simpa using compatible

theorem validate_eq_ok_iff :
    ConflictDetector.validate package available = .ok () ↔
      ∀ dependency ∈ package.manifest.dependencies, SoundDependency available dependency := by
  unfold ConflictDetector.validate
  rw [forM_eq_ok_iff]
  exact forall₂_congr fun dependency _ => checkDependency_eq_ok_iff dependency

/-- What the resolver has checked when it returns. -/
structure Resolved (available : Dict String PackageVersion) (package : PackageVersion)
    (resolved : List PackageVersion) : Prop where
  sound : ∀ dependency ∈ package.manifest.dependencies, SoundDependency available dependency
  members : ∀ member, member ∈ resolved ↔ member = package ∨ Needs available package member
  acyclic : ¬ ∃ packageId,
    Relation.TransGen (Edge (DependencyGraph.edges resolved)) packageId packageId
  permitted : ∀ member, Needs available package member →
    ∀ permission ∈ member.manifest.toolPermissions, permission ∉ unsafeDependencyPermissions

theorem resolve_ok (returned : resolve package available = .ok resolved) :
    Resolved available package resolved := by
  unfold resolve at returned
  obtain ⟨_, validated, returned⟩ := bind_eq_ok_iff.mp returned
  dsimp only at returned
  split at returned
  · cases returned
  rename_i silent
  split at returned
  · cases returned
  rename_i safe
  cases returned
  have needs (member : PackageVersion) :
      member ∈ package.manifest.dependencies.filterMap
          (fun dependency => available.get? dependency.packageId) ↔
        Needs available package member := List.mem_filterMap
  constructor
  · exact validate_eq_ok_iff.mp validated
  · intro member
    rw [List.mem_cons, needs]
  · have none := (DependencyGraph.detectCycles_eq_nil_iff _).mp (not_not.mp silent)
    rw [DependencyGraph.hasReachableCycle_iff] at none
    exact none
  · intro member needed permission requested forbidden
    have empty := not_not.mp safe
    rw [List.dedup_eq_nil, List.flatMap_eq_nil_iff] at empty
    have filtered := empty member ((needs member).mpr needed)
    rw [List.filter_eq_nil_iff] at filtered
    exact filtered permission requested (decide_eq_true forbidden)

/-- Everything that a flat package needs, it needs directly. -/
theorem Flat.inClosure_iff (flat : Flat available package) (member : PackageVersion) :
    InClosure available package member ↔ member = package ∨ Needs available package member := by
  constructor
  · intro reach
    induction reach with
    | refl => exact .inl rfl
    | tail _ edge ih =>
        rcases ih with rfl | direct
        · exact .inr edge
        · exact (flat _ direct).2 _ edge
  · rintro (rfl | direct)
    · exact .refl
    · exact .single direct

end Closure

/-- A package that resolves has a safe closure, and the closure is what was resolved, exactly when its
direct dependencies have sound dependencies only and need nothing that it does not need itself. -/
theorem resolve_closure_iff (package : PackageVersion) (available : Dict String PackageVersion)
    (resolved : List PackageVersion) (returned : resolve package available = .ok resolved) :
    SafeClosure available package resolved ↔ Flat available package := by
  have checked := resolve_ok returned
  constructor
  · intro safe direct needed
    refine ⟨safe.sound direct (.single needed), ?_⟩
    intro other edge
    rw [← checked.members, safe.exact]
    exact .tail (.single needed) edge
  · intro flat
    have members := flat.inClosure_iff
    constructor
    · rintro ⟨packageId, cycle⟩
      apply checked.acyclic
      have declared : ∀ source target, ClosureEdge available package source target →
          Edge (DependencyGraph.edges resolved) source target := by
        rintro source target ⟨member, inside, same, listed⟩
        have found : member ∈ resolved := (checked.members member).mpr ((members member).mp inside)
        exact List.mem_flatMap.mpr
          ⟨member, List.mem_filter.mpr ⟨found, decide_eq_true same⟩, listed⟩
      exact ⟨packageId, Relation.TransGen.mono declared _ _ cycle⟩
    · intro member inside different
      exact checked.permitted member (((members member).mp inside).resolve_left different)
    · intro member inside
      rcases (members member).mp inside with rfl | direct
      · exact checked.sound
      · exact (flat member direct).1
    · intro member
      rw [checked.members, members]

section Example

open DependencyGraph (dependentPackage)

def leafPackage : PackageVersion := dependentPackage "c" [] ["network.unbounded"]

def middlePackage : PackageVersion := dependentPackage "b" ["c"] []

def rootPackage : PackageVersion := dependentPackage "a" ["b"] []

/-- A package that needs two packages and the one that both of them need. -/
def diamondPackage : PackageVersion := dependentPackage "a" ["b", "c", "d"] []

def diamondSides : List PackageVersion :=
  [dependentPackage "b" ["d"] [], dependentPackage "c" ["d"] [], dependentPackage "d" [] []]

/-- A package that needs its whole closure itself is flat and resolves to it. -/
theorem resolve_closure_leaf :
    SafeClosure (DependencyGraph.byId diamondSides) diamondPackage
      (diamondPackage :: diamondSides) := by
  apply (resolve_closure_iff diamondPackage (DependencyGraph.byId diamondSides)
    (diamondPackage :: diamondSides) rfl).mpr
  have bottom : (⟨"d", "*", true, false⟩ : PackageDependency) ∈
      diamondPackage.manifest.dependencies := List.Mem.tail _ (List.Mem.tail _ (List.Mem.head _))
  have side (packageId : String) : ∀ dependency ∈
      (dependentPackage packageId ["d"] []).manifest.dependencies,
      dependency = ⟨"d", "*", true, false⟩ := fun _ member => List.mem_singleton.mp member
  have sound : SoundDependency (DependencyGraph.byId diamondSides) ⟨"d", "*", true, false⟩ :=
    (checkDependency_eq_ok_iff _).mp rfl
  have flat (packageId : String) :
      (∀ dependency ∈ (dependentPackage packageId ["d"] []).manifest.dependencies,
        SoundDependency (DependencyGraph.byId diamondSides) dependency) ∧
      ∀ needed, Needs (DependencyGraph.byId diamondSides) (dependentPackage packageId ["d"] []) needed →
        needed = diamondPackage ∨ Needs (DependencyGraph.byId diamondSides) diamondPackage needed := by
    constructor
    · intro dependency member
      rw [side packageId dependency member]
      exact sound
    · rintro needed ⟨dependency, member, found⟩
      rw [side packageId dependency member] at found
      exact .inr ⟨_, bottom, found⟩
  rintro direct ⟨dependency, member, found⟩
  change dependency ∈ [⟨"b", "*", true, false⟩, ⟨"c", "*", true, false⟩, ⟨"d", "*", true, false⟩]
    at member
  simp only [List.mem_cons, List.not_mem_nil, or_false] at member
  rcases member with rfl | rfl | rfl
  · obtain rfl : dependentPackage "b" ["d"] [] = direct := Option.some.inj found
    exact flat "b"
  · obtain rfl : dependentPackage "c" ["d"] [] = direct := Option.some.inj found
    exact flat "c"
  · obtain rfl : dependentPackage "d" [] [] = direct := Option.some.inj found
    constructor
    · intro dependency none
      cases none
    · rintro needed ⟨dependency, none, _⟩
      cases none

/-- A dependency of a dependency is neither resolved nor checked. -/
theorem resolve_not_closure :
    resolve rootPackage (DependencyGraph.byId [middlePackage, leafPackage]) =
        .ok [rootPackage, middlePackage] ∧
      InClosure (DependencyGraph.byId [middlePackage, leafPackage]) rootPackage leafPackage ∧
      ¬ SafeClosure (DependencyGraph.byId [middlePackage, leafPackage]) rootPackage
        [rootPackage, middlePackage] := by
  have reach : InClosure (DependencyGraph.byId [middlePackage, leafPackage]) rootPackage
      leafPackage := by
    have first : Needs (DependencyGraph.byId [middlePackage, leafPackage]) rootPackage
        middlePackage := ⟨_, List.mem_singleton_self _, rfl⟩
    have second : Needs (DependencyGraph.byId [middlePackage, leafPackage]) middlePackage
        leafPackage := ⟨_, List.mem_singleton_self _, rfl⟩
    exact .tail (.single first) second
  refine ⟨rfl, reach, ?_⟩
  intro safe
  have different : leafPackage ≠ rootPackage := by
    intro same
    have ids : "c" = "a" := congrArg PackageVersion.packageId same
    exact absurd ids (by decide)
  exact safe.permitted leafPackage reach different "network.unbounded" List.mem_cons_self (by decide)

end Example

end AgentFabric.Marketplace.DependencyResolver
