import AgentFabric.Construction.Audit.AuditLogs

namespace AgentFabric.Phase4
open Transition Delimited AuditEvent

/-- What an event says, with the metadata as it is printed. -/
structure AuditContent where
  timestamp : DateTime
  actorId : String
  action : String
  target : String
  metadata : String
  previousHash : String
  deriving DecidableEq

def AuditEvent.content {Metadata : Type} (render : Metadata → String)
    (event : AuditEvent Metadata) : AuditContent where
  timestamp := event.timestamp
  actorId := event.actorId
  action := event.action
  target := event.target
  metadata := render event.metadata
  previousHash := event.previousHash

/-- The number of bars in a text. -/
def bars (text : String) : Nat := text.toList.count '|'

/-- Two events have as many bars in each free text and name the same previous hash. -/
structure SameShape {Metadata : Type} (first second : AuditEvent Metadata) : Prop where
  actorId : bars first.actorId = bars second.actorId
  action : bars first.action = bars second.action
  target : bars first.target = bars second.target
  previousHash : first.previousHash = second.previousHash

section Material

theorem isoformat_bars (timestamp : DateTime) : bars timestamp.isoformat = 0 :=
  List.count_eq_zero.mpr (DateTime.not_mem_isoformat '|' (by decide) (by decide) timestamp)

theorem isoformat_injective (first second : DateTime)
    (same : first.isoformat = second.isoformat) : first = second := by
  apply Option.some.inj
  rw [← DateTime.fromisoformat_isoformat, same, DateTime.fromisoformat_isoformat]

/-- Equal texts with equally many bars in front of the last one split alike. -/
theorem bar_cancel (first second rest later : String) (counts : bars first = bars second)
    (same : first ++ ("|" ++ rest) = second ++ ("|" ++ later)) : first = second ∧ rest = later := by
  have texts := congrArg String.toList same
  simp only [String.toList_append] at texts
  obtain ⟨fronts, rests⟩ := split_cancel '|' _ _ _ _ counts texts
  exact ⟨String.ext fronts, String.ext rests⟩

variable {Metadata : Type} (render : Metadata → String)

/-- One hashed text over one previous hash determines the fields up to their bars. -/
theorem material_cancel (previousHash : String) (first second : AuditEvent Metadata)
    (shape : SameShape first second)
    (same : material render first.timestamp first.actorId first.action first.target first.metadata
        previousHash =
      material render second.timestamp second.actorId second.action second.target second.metadata
        previousHash) :
    first.content render = second.content render := by
  unfold material at same
  simp only [String.append_assoc] at same
  obtain ⟨timestamps, same⟩ := bar_cancel _ _ _ _
    ((isoformat_bars first.timestamp).trans (isoformat_bars second.timestamp).symm) same
  obtain ⟨actorIds, same⟩ := bar_cancel _ _ _ _ shape.actorId same
  obtain ⟨actions, same⟩ := bar_cancel _ _ _ _ shape.action same
  obtain ⟨targets, same⟩ := bar_cancel _ _ _ _ shape.target same
  have metadata : render first.metadata = render second.metadata := by
    have texts := congrArg String.toList same
    simp only [String.toList_append] at texts
    exact String.ext (List.append_cancel_right texts)
  simp only [content, isoformat_injective _ _ timestamps, actorIds, actions, targets,
    metadata, shape.previousHash]

end Material

namespace ImmutableAuditLog

variable {Metadata : Type} (sha256 : String → String) (render : Metadata → String)
  (empty : Metadata)

/-- Every log that only append built verifies. -/
theorem appended_verifies (calls : List (AuditAppend Metadata)) :
    verifyIntegrity sha256 render (appended sha256 render empty calls) = true := by
  apply run_invariant (append sha256 render empty)
    fun events => verifyIntegrity sha256 render events = true
  · intro events call valid
    unfold verifyIntegrity append
    rw [LinkChain.verifyFrom_concat]
    exact ⟨valid, rfl, rfl⟩
  · rfl

/-- Two verified logs with the same hashes hold the same contents where their shapes agree. -/
theorem contents_of_sameShape (injective : Function.Injective sha256) (hash : String)
    (first second : List (AuditEvent Metadata))
    (firstValid : (auditChain sha256 render).verifyFrom hash first = true)
    (secondValid : (auditChain sha256 render).verifyFrom hash second = true)
    (hashes : first.map eventHash = second.map eventHash)
    (shapes : List.Forall₂ SameShape first second) :
    first.map (content render) = second.map (content render) := by
  induction shapes generalizing hash with
  | nil => rfl
  | @cons event other rest others shape _ ih =>
      simp only [LinkChain.verifyFrom, Bool.and_eq_true, decide_eq_true_eq] at firstValid secondValid
      obtain ⟨⟨firstHash, _⟩, firstRest⟩ := firstValid
      obtain ⟨⟨secondHash, _⟩, secondRest⟩ := secondValid
      rw [List.map_cons, List.map_cons, List.cons.injEq] at hashes
      have stored : (auditChain sha256 render).stored other = (auditChain sha256 render).stored event :=
        hashes.1.symm
      rw [stored] at secondHash secondRest
      have contents := material_cancel render hash event other shape
        (injective (firstHash.trans secondHash.symm))
      rw [List.map_cons, List.map_cons, contents, ih _ firstRest secondRest hashes.2]

/-- Equal contents have one shape. -/
theorem sameShape_of_contents (first second : List (AuditEvent Metadata))
    (contents : first.map (content render) = second.map (content render)) :
    List.Forall₂ SameShape first second := by
  rw [← List.forall₂_eq_eq_eq, List.forall₂_map_left_iff, List.forall₂_map_right_iff] at contents
  refine contents.imp fun event other same => ⟨?_, ?_, ?_, ?_⟩
  · exact congrArg (fun content => bars content.actorId) same
  · exact congrArg (fun content => bars content.action) same
  · exact congrArg (fun content => bars content.target) same
  · exact congrArg AuditContent.previousHash same

/-- Two verified logs with the same hashes hold equal events exactly when their events have as many
bars in each free text and name the same previous hashes; every appended log verifies. -/
theorem verifyIntegrity_binds_iff_sameShape (injective : Function.Injective sha256) :
    (∀ first second : List (AuditEvent Metadata),
      verifyIntegrity sha256 render first = true → verifyIntegrity sha256 render second = true →
      first.map eventHash = second.map eventHash →
        (first.map (content render) = second.map (content render) ↔
          List.Forall₂ SameShape first second)) ∧
      ∀ calls : List (AuditAppend Metadata),
        verifyIntegrity sha256 render (appended sha256 render empty calls) = true := by
  refine ⟨?_, appended_verifies sha256 render empty⟩
  intro first second firstValid secondValid hashes
  constructor
  · exact sameShape_of_contents render first second
  · exact contents_of_sameShape sha256 render injective genesis first second firstValid secondValid
      hashes

end ImmutableAuditLog

namespace ImmutableAuditLog

/-- An event of a log whose metadata is its own text. -/
def firstEvent (actorId action previousHash : String) : AuditEvent String where
  timestamp := UtcTime.first.toDateTime
  actorId := actorId
  action := action
  target := "agent"
  metadata := "\x7b\x7d"
  previousHash := previousHash
  eventHash := material id UtcTime.first.toDateTime actorId action "agent" "\x7b\x7d" genesis

/-- A bar can move from the actor to the action, and the previous hash can be any text. -/
theorem moved_bar_verifies :
    verifyIntegrity id id [firstEvent "ann|admin" "grant" genesis] = true ∧
      verifyIntegrity id id [firstEvent "ann" "admin|grant" "forged"] = true ∧
      [firstEvent "ann|admin" "grant" genesis].map eventHash =
        [firstEvent "ann" "admin|grant" "forged"].map eventHash ∧
      [firstEvent "ann|admin" "grant" genesis].map (content id) ≠
        [firstEvent "ann" "admin|grant" "forged"].map (content id) := by
  decide

/-- The logs of the moved bar differ in shape. -/
theorem verifyIntegrity_binds_iff_sameShape_id :
    ¬ List.Forall₂ SameShape [firstEvent "ann|admin" "grant" genesis]
        [firstEvent "ann" "admin|grant" "forged"] ∧
      verifyIntegrity id id (appended id id "" [⟨"ann", "grant", "agent", none, .first⟩]) = true := by
  have binds := verifyIntegrity_binds_iff_sameShape id id "" Function.injective_id
  constructor
  · rw [← binds.1 _ _ (by decide) (by decide) (by decide)]
    decide
  · exact binds.2 _

end ImmutableAuditLog

end AgentFabric.Phase4

namespace AgentFabric.Production
open Transition

variable (sha256 : String → String) (isPrintable : Char → Bool)

/-- The hashed texts of one link agree exactly when the printed metadata agree. -/
theorem material_inj_metadata (actorId action target previousHash : String) (first second : Json) :
    material isPrintable actorId action target first previousHash =
        material isPrintable actorId action target second previousHash ↔ first = second := by
  constructor
  · intro same
    apply Json.repr_injective isPrintable
    simpa [material] using same
  · intro same
    rw [same]

/-- The table stays valid exactly when the check prints the metadata as the append did. -/
theorem appendAudit_verifies (rows : List AuditRow) (call : AuditCall) :
    verifyAuditIntegrity sha256 isPrintable (appendAudit sha256 isPrintable rows call).2 = true ↔
      verifyAuditIntegrity sha256 isPrintable rows = true ∧
        sha256 (material isPrintable call.actorId call.action call.target
            call.metadataOrEmpty.sortKeys (lastAuditHash sha256 isPrintable rows)) =
          sha256 (material isPrintable call.actorId call.action call.target
            call.metadataOrEmpty (lastAuditHash sha256 isPrintable rows)) := by
  unfold verifyAuditIntegrity appendAudit
  rw [LinkChain.verifyFrom_concat]
  simp [auditChain, lastAuditHash]

/-- Metadata with sorted keys prints alike before and after the table. -/
theorem auditRows_verify (calls : List AuditCall)
    (sorted : ∀ call ∈ calls, call.metadataOrEmpty.KeysSorted) :
    verifyAuditIntegrity sha256 isPrintable (auditRows sha256 isPrintable calls) = true := by
  apply run_invariant_of_guarded _ (fun _ call => call.metadataOrEmpty.KeysSorted)
    fun rows => verifyAuditIntegrity sha256 isPrintable rows = true
  · intro rows call valid keysSorted
    rw [appendAudit_verifies, (Json.sortKeys_eq_iff _).mpr keysSorted]
    exact ⟨valid, rfl⟩
  · rfl
  · exact guarded_of_forall _ _ _ calls sorted

/-- The audit trail verifies after each call and under every digest exactly when every metadata
dict lists its keys in order at every level. -/
theorem auditRows_verify_iff_keysSorted (calls : List AuditCall) :
    (∀ (sha256 : String → String) (front rest : List AuditCall), calls = front ++ rest →
        verifyAuditIntegrity sha256 isPrintable (auditRows sha256 isPrintable front) = true) ↔
      ∀ call ∈ calls, call.metadataOrEmpty.KeysSorted := by
  constructor
  · intro verifies call member
    obtain ⟨front, rest, split⟩ := List.append_of_mem member
    have valid := verifies id (front ++ [call]) rest (by simp [split])
    rw [auditRows, run_append, run_cons, run_nil, appendAudit_verifies] at valid
    rw [← Json.sortKeys_eq_iff]
    exact (material_inj_metadata isPrintable _ _ _ _ _ _).mp valid.2
  · intro sorted sha256 front rest split
    apply auditRows_verify
    intro call member
    exact sorted call (split ▸ List.mem_append_left rest member)

/-- Metadata whose keys stand in the order of their insertion. -/
def unsortedCall : AuditCall where
  actorId := "alice"
  action := "deploy"
  target := "agent-1"
  metadata := some [("version", .int 2), ("channel", .str "beta")]
  timestamp := "2026-01-01T00:00:00+00:00"

/-- One call with unsorted metadata already fails the check. -/
theorem unsortedCall_fails :
    verifyAuditIntegrity id (fun _ => true) (auditRows id (fun _ => true) [unsortedCall]) = false := by
  decide

end AgentFabric.Production
