import AgentPipeline.Foundation.JsonPrint
import AgentPipeline.Review.BlockingSurfaces

/-!
# Attested: an attestation line, written and read back

* `lastAttestationMark_written`: the last line is the mark that is found, whatever the body holds;
* `attested_iff`: the comment verifies exactly where the digest is that of the text above the line.
-/

namespace AgentPipeline.Review

open JsRegExp

lemma visible_of_isLetter {c : Char} (h : Base64Url.isLetter c = true) : 0x20 < c.toNat ∧ c.toNat < 0x7F := by
  delta Base64Url.isLetter Char.isAlphanum Char.isAlpha Char.isUpper Char.isLower Char.isDigit at h
  simp [Char.ext_iff, UInt32.le_iff_toNat_le, ← UInt32.toNat_inj] at h
  omega

variable (host : NodeHost) (a : PipelineAttestation) (text : List Char)

/-- The value that is written. -/
def PipelineAttestation.json : Json := .obj [("kind", .str a.kind), ("bodyHash", .str a.bodyHash)]

/-- What the mark carries. -/
def PipelineAttestation.b64 : List Char :=
  Base64Url.encode (NodeHost.utf8Bytes (String.ofList (JsonText.stringify host.numberText a.json)))

lemma parse_json : JsonText.parse host.numberOf (JsonText.stringify host.numberText a.json) = some a.json := by
  have hread : JsonText.Readable host.numberOf host.numberText a.json :=
    ⟨@JsonText.ofMembers_eq_self _ (show ["kind", "bodyHash"].Nodup by decide)
      (show ∀ key ∈ ["kind", "bodyHash"], JsonText.isIndexKey key = false by decide), trivial, trivial, trivial⟩
  simpa [PipelineAttestation.json, JsonText.print, JsonText.stringify, JsonText.printField, JsonText.stringifyField,
    JsonText.printFields, JsonText.stringifyFields, JsonText.Layout.compact]
    using JsonText.parse_print .compact hread [] [] (by simp) (by simp) 0

lemma lastAttestationMark_written : ∃ stop : Cursor, stop.rest = [] ∧
    lastAttestationMark (text ++ '\n' :: encodePipelineAttestation host a) =
      some ⟨⟨some '\n', encodePipelineAttestation host a⟩, ⟨stop, [(1, a.b64 host)]⟩⟩ := by
  have hletters : ∀ c ∈ a.b64 host, Base64Url.isLetter c = true := fun _ => Base64Url.isLetter_of_mem_encode
  have hne : a.b64 host ≠ [] := Base64Url.encode_ne_nil (by
    simp [NodeHost.utf8Bytes, PipelineAttestation.json, JsonText.stringify])
  have hline : encodePipelineAttestation host a =
      "<!-- pipeline-attest: ".toList ++ (a.b64 host ++ " -->".toList) := List.append_assoc ..
  rw [hline]
  exact lastMatch_written "<!-- pipeline-attest: " text mem_ends_many
    (fun _ h c hc => isDot_of_visible (visible_of_isLetter (h.1 c hc))) (List.all_eq_true.1 (by decide))
    ⟨hletters, List.length_pos_iff.2 hne, by simp⟩ fun c hc hspace => absurd (hspace ▸ hletters c hc) (by decide)

lemma extractPipelineAttestation_written :
    extractPipelineAttestation host (text ++ '\n' :: encodePipelineAttestation host a) = some a := by
  obtain ⟨stop, -, hlast⟩ := lastAttestationMark_written host a text
  simp [extractPipelineAttestation, hlast, PipelineAttestation.b64, Base64Url.decode_encode,
    NodeHost.utf8Text_utf8Bytes, parse_json]
  rfl

/-- Below any text an attestation is read back, and it verifies exactly the texts of its digest, first of all the one
that was attested. -/
theorem attested_iff : extractPipelineAttestation host (text ++ '\n' :: encodePipelineAttestation host a) = some a ∧
    (isVerifiedPipelineAttestation host (text ++ '\n' :: encodePipelineAttestation host a) = true ↔
      hashReviewBody host text = a.bodyHash) ∧
    isVerifiedPipelineAttestation host (attestPipelineComment host a.kind text) = true := by
  have hverified : ∀ a, isVerifiedPipelineAttestation host (text ++ '\n' :: encodePipelineAttestation host a) = true ↔
      hashReviewBody host text = a.bodyHash := by
    intro a
    obtain ⟨stop, hrest, hlast⟩ := lastAttestationMark_written host a text
    have hextract := extractPipelineAttestation_written host a text
    generalize encodePipelineAttestation host a = line at *
    have htake : (text ++ '\n' :: line).take ((text ++ '\n' :: line).length - line.length) = text ++ ['\n'] := by
      rw [List.append_cons, List.length_append, Nat.add_sub_cancel, List.take_left]
    unfold isVerifiedPipelineAttestation
    rw [hextract, hlast]
    dsimp only
    rw [htake, JsRegExp.Found.after, hrest]
    simp
  exact ⟨extractPipelineAttestation_written host a text, hverified a, (hverified _).2 rfl⟩

end AgentPipeline.Review
