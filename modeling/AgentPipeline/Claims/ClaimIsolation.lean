import AgentPipeline.Claims.ClaimStore

/-!
# ClaimIsolation: which identities share a claim file

Calls for one identity touch the file of that identity only, so an identity is isolated from
another one as long as their file names differ. The converse holds as well: the file name is all
that separates two claims, and a call for the one becomes visible as the claim of the other when
`observationFileName` sends both keys to the same name.
-/

universe u

namespace AgentPipeline.Claims

open FileSystem Process Locks Transition

variable {ι : Type u}

/-! ## Isolation -/

/-- `loadOwnedOperationClaim` for an identity. -/
def State.load (toLowerCase : String → String) (s : State ι) (domain logicalOperationId : String) :
    Option PersistedOperationObservation :=
  loadOwnedOperationClaim
    ((s.files (claimFileName toLowerCase domain logicalOperationId)).claim.read ())

/-- Every call is for the given identity. -/
def CallsOnly (domain logicalOperationId : String) (_ : State ι) : Act ι → Prop
  | .persist _ obs _ => obs.domain = domain ∧ obs.logicalOperationId = logicalOperationId
  | _ => True

variable [DecidableEq ι]

/-- No sequence of calls for the first identity changes what is loaded for the second. -/
def Isolated (toLowerCase : String → String) (host : Host ι)
    (domain₁ id₁ domain₂ id₂ : String) : Prop :=
  ∀ (s t : State ι) (as : List (Act ι)), (∀ p, s.pc p = .idle) →
    Run (step toLowerCase host) (CallsOnly domain₁ id₁) s as t →
      t.load toLowerCase domain₂ id₂ = s.load toLowerCase domain₂ id₂

/-! ## Different files -/

/-- Everybody who is inside a call works on `file`. -/
def WorksOn (file : String) (s : State ι) : Prop :=
  ∀ p, (s.pc p).file = none ∨ (s.pc p).file = some file

variable {toLowerCase : String → String} {domain id : String}

lemma WorksOn.step {host : Host ι} {s t : State ι} {a : Act ι} (h : WorksOn (claimFileName toLowerCase domain id) s)
    (hok : CallsOnly domain id s a) (hst : step toLowerCase host s a = some t) :
    WorksOn (claimFileName toLowerCase domain id) t ∧
      ∀ other, other ≠ claimFileName toLowerCase domain id → t.files other = s.files other := by
  cases a with
  | spawn p =>
    simp only [Claims.step] at hst
    split at hst
    · cases hst
    · obtain ⟨procs, _, rfl⟩ := Option.map_eq_some_iff.1 hst
      exact ⟨h, fun _ _ => rfl⟩
  | crash p =>
    obtain ⟨procs, _, rfl⟩ := Option.map_eq_some_iff.1 hst
    exact ⟨h, fun _ _ => rfl⟩
  | persist p obs recordedAt =>
    simp only [Claims.step] at hst
    split at hst
    · simp only [begin] at hst
      split at hst
      · split at hst
        · cases hst
          -- a call that begins is for the one identity, so it works on the one file
          refine ⟨?_, fun _ _ => rfl⟩
          intro q
          by_cases hq : q = p
          · subst hq
            exact .inr (by simp [Pc.file, hok.1, hok.2])
          · simpa [hq] using h q
        · cases hst
          exact ⟨h, fun _ _ => rfl⟩
      · cases hst
    · cases hst
  | run p =>
    simp only [Claims.step] at hst
    split at hst
    · obtain ⟨file, hfile, hlocal⟩ := advance_local hst
      -- whoever takes a step is inside a call
      have heq : file = claimFileName toLowerCase domain id := by
        rcases h p with hnone | hsome
        · simp [hnone] at hfile
        · simpa [hsome] using hfile.symm
      subst heq
      refine ⟨?_, hlocal.files⟩
      intro q
      by_cases hq : q = p
      · exact hq ▸ hlocal.stays
      · exact hlocal.others q hq ▸ h q
    · cases hst

variable {domain₁ id₁ domain₂ id₂ : String}

lemma isolated_of_file_ne {host : Host ι}
    (hne : claimFileName toLowerCase domain₁ id₁ ≠ claimFileName toLowerCase domain₂ id₂) :
    Isolated toLowerCase host domain₁ id₁ domain₂ id₂ := by
  intro s t as hidle hrun
  have hstart : WorksOn (claimFileName toLowerCase domain₁ id₁) s := by
    intro p
    exact .inl (by simp [hidle p, Pc.file])
  have hfiles : t.files (claimFileName toLowerCase domain₂ id₂) = s.files (claimFileName toLowerCase domain₂ id₂) := by
    refine hrun.relation
      (I := WorksOn (claimFileName toLowerCase domain₁ id₁))
      (R := fun s t => t.files (claimFileName toLowerCase domain₂ id₂) =
        s.files (claimFileName toLowerCase domain₂ id₂))
      (fun _ => rfl) (fun _ _ _ h₁ h₂ => h₂.trans h₁) ?_ ?_ hstart
    · intro s a t hok hs hst
      exact (hs.step hok hst).1
    · intro s a t hok hs hst
      exact (hs.step hok hst).2 _ (Ne.symm hne)
  simp [State.load, hfiles]

/-! ## The same file -/

/-- The claim directory is empty and `p` is the only process. -/
def emptyDirectory (p : ι) : State ι where
  files := fun _ => { claim := Fs.empty none, caslock := Fs.empty "" }
  procs := ⟨[p], []⟩
  pc := fun _ => .idle

lemma persist_emptyDirectory (toLowerCase : String → String) (host : Host ι) (p : ι)
    (hadmitted : Admitted domain id) : ∃ t, Run (step toLowerCase host) (CallsOnly domain id) (emptyDirectory p)
        [.persist p (admission domain id) "t", .run p, .run p, .run p] t ∧
      (t.files (claimFileName toLowerCase domain id)).claim.read () =
        some (some (freshClaim (admission domain id) "t" 1)) := by
  have htyped : Typed (admission domain id) := ⟨rfl, rfl, rfl, rfl, rfl⟩
  have hadmitted' : Admitted (admission domain id).domain (admission domain id).logicalOperationId := hadmitted
  let k : Task :=
    { file := claimFileName toLowerCase domain id
      obs := admission domain id
      recordedAt := "t"
      attempt := 0
      acceptable := acceptable_of_admitted htyped hadmitted }
  -- read, create, write: the three steps of a call that meets nobody
  let s₁ := (emptyDirectory p).goto p (.readClaim k)
  let s₂ := s₁.goto p (.createClaim k)
  let s₃ := (s₂.goto p (.writeClaim k 0)).setClaim k.file ((Fs.empty none).replace () none)
  let s₄ := (s₃.goto p .idle).setClaim k.file
    ((s₃.files k.file).claim.write 0 (some (freshClaim k.obs k.recordedAt 1)))
  have hrunning : p ∈ (emptyDirectory p).procs.running := by simp [emptyDirectory]
  have h₁ : step toLowerCase host (emptyDirectory p) (.persist p (admission domain id) "t") = some s₁ := by
    simp only [step, begin, hrunning, dif_pos htyped, dif_pos hadmitted']
    rfl
  have h₂ : step toLowerCase host s₁ (.run p) = some s₂ := by
    have hclaim : s₁.claim k.file = none := rfl
    have hrun : p ∈ s₁.procs.running := hrunning
    have hpc : s₁.pc p = .readClaim k := by simp [s₁]
    simp only [step, advance, hrun, hpc, hclaim, if_true]
    rfl
  have h₃ : step toLowerCase host s₂ (.run p) = some s₃ := by
    have hrun : p ∈ s₂.procs.running := hrunning
    have hpc : s₂.pc p = .createClaim k := by simp [s₂]
    simp only [step, advance, hrun, hpc, if_true]
    rfl
  have h₄ : step toLowerCase host s₃ (.run p) = some s₄ := by
    have hrun : p ∈ s₃.procs.running := hrunning
    have hpc : s₃.pc p = .writeClaim k 0 := by simp [s₃]
    simp only [step, advance, hrun, hpc, if_true]
    rfl
  refine ⟨s₄, .cons ⟨rfl, rfl⟩ h₁ (.cons trivial h₂ (.cons trivial h₃ (.cons trivial h₄ (.nil _)))), ?_⟩
  have hfile : (s₄.files k.file).claim = (s₃.files k.file).claim.write 0 (some (freshClaim k.obs k.recordedAt 1)) := by
    simp [s₄]
  have hnames : (s₃.files k.file).claim.names () = some 0 := by simp [s₃, Fs.empty]
  show (s₄.files k.file).claim.read () = _
  rw [hfile]
  exact (Fs.read_eq_some_iff _).2 ⟨0, by simpa using hnames, by simp [k]⟩

lemma not_isolated_of_file_eq [Inhabited ι] {host : Host ι} (hadmitted : Admitted domain₁ id₁)
    (heq : claimFileName toLowerCase domain₁ id₁ = claimFileName toLowerCase domain₂ id₂) :
    ¬ Isolated toLowerCase host domain₁ id₁ domain₂ id₂ := by
  intro hisolated
  obtain ⟨t, hrun, hread⟩ :=
    persist_emptyDirectory toLowerCase host (default : ι) hadmitted
  have hload := hisolated _ t _ (fun _ => rfl) hrun
  have hacc : Acceptable (admission domain₁ id₁) := acceptable_of_admitted ⟨rfl, rfl, rfl, rfl, rfl⟩ hadmitted
  have hclaim : readClaimFile (some (freshClaim (admission domain₁ id₁) "t" 1)) =
      some (freshClaim (admission domain₁ id₁) "t" 1) :=
    readClaimFile_eq_some.2 ⟨rfl, hacc⟩
  -- nothing was loaded for the second identity, and now the first one's claim is
  have hbefore : (emptyDirectory (default : ι)).load toLowerCase domain₂ id₂ = none := rfl
  have hafter : t.load toLowerCase domain₂ id₂ = some (freshClaim (admission domain₁ id₁) "t" 1) := by
    unfold State.load loadOwnedOperationClaim
    rw [← heq, hread]
    simp only [Option.bind_some, hclaim]
    rfl
  simp [hbefore, hafter] at hload

/-- An admitted identity is isolated from another one exactly when the two file names differ. -/
theorem isolated_iff [Inhabited ι] (toLowerCase : String → String) (host : Host ι)
    {domain₁ id₁ : String} (domain₂ id₂ : String) (hadmitted : Admitted domain₁ id₁) :
    Isolated toLowerCase host domain₁ id₁ domain₂ id₂ ↔
      claimFileName toLowerCase domain₁ id₁ ≠ claimFileName toLowerCase domain₂ id₂ := by
  constructor
  · intro hisolated heq
    exact not_isolated_of_file_eq hadmitted heq hisolated
  · exact isolated_of_file_ne

/-! ## Fixed identities -/

def oneProcess : Host Unit where
  pid := fun _ => 100
  pid_pos := fun _ => by decide
  pid_lt := fun _ => by decide
  startTime := fun _ => none

theorem isolated_iff_repository :
    Admitted "Owner/Repo" "lop-1" ∧ Isolated asciiLower oneProcess "Owner/Repo" "lop-1" "owner/repo" "lop-2" :=
  ⟨by decide +kernel, (isolated_iff asciiLower oneProcess _ _ (by decide +kernel)).2 (by decide +kernel)⟩

/-- `a b` and `a_b` are different domains with one file. -/
theorem not_isolated_blank_underscore :
    ¬ ∀ domain₁ id₁ domain₂ id₂ : String, Admitted domain₁ id₁ → Admitted domain₂ id₂ →
      operationClaimKey asciiLower domain₁ id₁ ≠ operationClaimKey asciiLower domain₂ id₂ →
        Isolated asciiLower oneProcess domain₁ id₁ domain₂ id₂ := by
  intro hall
  have hisolated := hall "a b" "lop-x" "a_b" "lop-x" (by decide +kernel) (by decide +kernel) (by decide +kernel)
  exact not_isolated_of_file_eq (by decide +kernel) (by decide +kernel) hisolated

end AgentPipeline.Claims
