import AgentFabric.Construction.Packages.Verification

namespace AgentFabric.Packages
open Json Sorting

section DigestText

/-- The texts of the paths of a package in their order, one behind the other. -/
def Package.concatenatedPaths (package : Package) : List Char :=
  (sortedBy RelativePath.parts package.files).flatMap fun path => path.text.toList

theorem spaced_lawful : Marketplace.PackageManifest.spaced.Lawful :=
  { compact_lawful with
    comma := ⟨',', [' '], rfl, rfl⟩
    commaStops := fun rest => close_stops ',' (' ' :: rest) (by decide) }

theorem toList_foldl_append (paths : List RelativePath) (text : String) :
    (paths.foldl (fun text path => text ++ path.text) text).toList =
      text.toList ++ paths.flatMap fun path => path.text.toList := by
  induction paths generalizing text with
  | nil => simp
  | cons path rest ih =>
      rw [List.foldl_cons, ih, String.toList_append, List.append_assoc, List.flatMap_cons]

/-- The text of a manifest shows where it ends, so a digest determines the manifest and the
concatenated paths, and nothing else. -/
theorem computePackageDigest_eq_iff (sha256 : Sha256) (first second : Package) :
    first.computePackageDigest sha256 = second.computePackageDigest sha256 ↔
      (obj first.manifest).Same (obj second.manifest) ∧
        first.concatenatedPaths = second.concatenatedPaths := by
  have texts (package : Package) : ((sortedBy RelativePath.parts package.files).foldl
      (fun text path => text ++ path.text) package.manifestText).toList =
        '\x7b' :: writeFields Marketplace.PackageManifest.spaced [] (sortObject package.manifest) ++
          package.concatenatedPaths := by
    rw [toList_foldl_append, Package.manifestText, String.toList_ofList, sortKeys_obj, write]
    rfl
  constructor
  · intro same
    have listed := congrArg String.toList (sha256.injective same)
    rw [texts, texts, List.cons_append, List.cons_append] at listed
    obtain ⟨manifests, paths⟩ := writeFields_cancel spaced_lawful _ _ [] _ _ (.inl rfl)
      (List.cons_injective listed)
    refine ⟨?_, paths⟩
    rw [Json.Same, sortKeys_obj, sortKeys_obj, manifests]
  · rintro ⟨manifests, paths⟩
    rw [Json.Same, sortKeys_obj, sortKeys_obj] at manifests
    refine congrArg sha256.hexdigest (String.toList_injective ?_)
    rw [texts, texts, Json.obj.inj manifests, paths]

end DigestText

section Signatures

/-- A path is not empty, so another file makes the concatenated paths longer. -/
theorem concatenatedPaths_signed (sha256 : Sha256) (package : Package)
    (data : List (String × Json)) (new : signaturePath ∉ package.files) :
    (package.signed sha256 data).concatenatedPaths ≠ package.concatenatedPaths := by
  have files : (package.signed sha256 data).files = signaturePath :: package.files := if_neg new
  have total (paths : List RelativePath) :
      ((sortedBy RelativePath.parts paths).flatMap fun path => path.text.toList).length =
        (paths.map fun path => path.text.toList.length).sum := by
    rw [List.length_flatMap]
    exact ((sortedBy_perm RelativePath.parts paths).map _).sum_eq
  have written : 0 < signaturePath.text.toList.length := by decide
  intro same
  have lengths := congrArg List.length same
  rw [Package.concatenatedPaths, Package.concatenatedPaths, total, total, files, List.map_cons,
    List.sum_cons] at lengths
  omega

theorem verifySignature_signed_iff (sha256 : Sha256) (package : Package)
    (data : List (String × Json)) :
    ((package.signed sha256 data).verifySignature sha256).1 = true ↔
      (package.signed sha256 data).computePackageDigest sha256 =
        package.computePackageDigest sha256 := by
  have present : signaturePath ∈ (package.signed sha256 data).files := by
    unfold Package.signed
    dsimp only
    split
    · assumption
    · exact .head _
  have found : (package.signed sha256 data).signature =
      .ok (.obj (("digest", .str (package.computePackageDigest sha256)) :: data)) := rfl
  have truthy : (Json.str (package.computePackageDigest sha256)).truthy = true := by
    simp [Json.truthy, Package.computePackageDigest, sha256.filled]
  rw [Package.verifySignature, if_neg (not_not.mpr present), found]
  simp only [List.lookup_cons_self, truthy, Bool.true_eq_false, if_false]
  split <;> rename_i equal <;> simpa using equal

end Signatures

section Identification

/-- Packages with one digest have equal manifests and the same files. -/
def Identified (sha256 : Sha256) (first second : Package) : Prop :=
  first.computePackageDigest sha256 = second.computePackageDigest sha256 →
    (obj first.manifest).Same (obj second.manifest) ∧
      ∀ path, path ∈ first.files ↔ path ∈ second.files

/-- The package passes after its digest is stored, whatever else the signature holds. -/
def Passes (sha256 : Sha256) (package : Package) : Prop :=
  ∀ data, ((package.signed sha256 data).verifySignature sha256).1 = true

/-- Digests identify two packages exactly when different files have different concatenated paths,
and a signed package passes exactly when it had a signature before. -/
theorem packageDigests_iff (sha256 : Sha256) (first second package : Package) :
    (Identified sha256 first second ↔
      ((obj first.manifest).Same (obj second.manifest) →
        first.concatenatedPaths = second.concatenatedPaths →
          ∀ path, path ∈ first.files ↔ path ∈ second.files)) ∧
    (Passes sha256 package ↔ signaturePath ∈ package.files) := by
  constructor
  · rw [Identified, computePackageDigest_eq_iff]
    constructor
    · intro identified manifests paths
      exact (identified ⟨manifests, paths⟩).2
    · intro separated same
      exact ⟨same.1, separated same.1 same.2⟩
  · constructor
    · intro passes
      by_contra new
      have digests := (verifySignature_signed_iff sha256 package []).mp (passes [])
      have equal := (computePackageDigest_eq_iff sha256 _ package).mp digests
      exact concatenatedPaths_signed sha256 package [] new equal.2
    · intro present data
      have files : (package.signed sha256 data).files = package.files := if_pos present
      refine (verifySignature_signed_iff sha256 package data).mpr
        ((computePackageDigest_eq_iff sha256 _ package).mpr ⟨rfl, ?_⟩)
      rw [Package.concatenatedPaths, files, Package.concatenatedPaths]

/-- A digest that keeps the whole text. -/
def Sha256.identity : Sha256 where
  hexdigest text := "0" ++ text
  injective := fun first second same => by simpa using same
  filled := fun text same => by simpa using congrArg String.length same

/-- A package without a manifest whose files have short names. -/
def named (names : List String) (distinct : names.Nodup)
    (plain : ∀ name ∈ names, name ∉ ["", ".", ".."] ∧ '/' ∉ name.toList) : Package where
  manifest := []
  files := names.attach.map fun name =>
    ⟨[name.1], List.cons_ne_nil _ _, fun part member => by
      rw [List.mem_singleton.mp member]
      exact plain name.1 name.2⟩
  distinct := by
    apply List.Nodup.map _ (List.nodup_attach.mpr distinct)
    intro first second same
    simpa [RelativePath.mk.injEq, Subtype.ext_iff] using same
  signature := .error ""

/-- The files `a` and `b` have the digest of the file `ab`, and no package passes that is signed for
the first time. -/
theorem packageDigests_collide :
    ¬ Identified Sha256.identity (named ["a", "b"] (by decide) (by decide))
      (named ["ab"] (by decide) (by decide)) ∧
    ¬ Passes Sha256.identity (named ["a", "b"] (by decide) (by decide)) := by
  constructor
  · intro identified
    have same := (identified (by decide)).2 ⟨["ab"], by decide, by decide⟩
    revert same
    decide
  · intro passes
    have passed := passes []
    revert passed
    decide

end Identification

end AgentFabric.Packages
