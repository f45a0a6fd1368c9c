import ProvisionWatch.Deployment.Codec
import ProvisionWatch.Proofs.Json.Members
import ProvisionWatch.Update.Basic

/-!
# Writing a deployment and reading it again

What was asked for and what is reported are written in full, with null for what
is absent, and both are read generously.  So what was read once is written and
read again without a change.  A deployment that was not read may hold values for
its template that are null; they are gone afterwards, but nobody who looks at the
deployment sees the difference.

Main results:

- Theorems `Spec.decode_encode_settled` and `Status.decode_encode`: what is read
  back.
- Theorems `Deployment.decode_encodeWith` and `Deployment.decode_encode`: reading a
  whole deployment again is reading its parts again.
- Theorem `Deployment.reread_observed_alike`: what was read stays what it is, and
  everything that is observed of a deployment stays the same.
-/

namespace ProvisionWatch

open Json (Decoder Fields Layout layout nullable encodeOption)

/-! ## What was asked for -/

/-- What was asked for is read member by member. -/
theorem Spec.decode_eq_some_iff {v : Json} {s : Spec} :
    Spec.decode v = some s ↔ ∃ l, layout 4 v = some l ∧
      l.orElse 0 "template" "" Json.text? = some s.template ∧
      l.orElse 1 "credential" none (nullable Json.text?) = some s.credential ∧
      l.orElse 2 "config" none (nullable some) = some s.config ∧
      l.orElse 3 "dryRun" false Json.bool? = some s.dryRun := by
  obtain ⟨template, credential, config, dryRun⟩ := s
  unfold Spec.decode decoder Decoder.record
  simp only [Seq.seq, Functor.map, Fields.seq, Fields.map, Fields.orElse, Fields.optional,
    Decoder.text, Decoder.any, Decoder.truth, Option.bind_eq_some_iff, Option.map_eq_some_iff,
    List.length_append, List.length_cons, List.length_nil]
  constructor
  · rintro ⟨l, hl, f, ⟨g, ⟨k, ⟨t, ht, rfl⟩, c, hc, rfl⟩, d, hd, rfl⟩, e, he, h⟩
    cases h
    exact ⟨l, hl, ht, hc, hd, he⟩
  · rintro ⟨l, hl, ht, hc, hd, he⟩
    exact ⟨l, hl, _, ⟨_, ⟨_, ⟨_, ht, rfl⟩, _, hc, rfl⟩, _, hd, rfl⟩, _, he, rfl⟩

/-- Values for the template that were read are never null. -/
theorem Spec.config_ne_null_of_decode {v : Json} {s : Spec} (h : Spec.decode v = some s) :
    s.config ≠ some .null := by
  obtain ⟨l, -, -, -, hconfig, -⟩ := Spec.decode_eq_some_iff.mp h
  intro hnull
  rw [hnull] at hconfig
  unfold Layout.orElse at hconfig
  split at hconfig
  · cases hconfig
  · exact Json.nullable_some_ne hconfig

/-- Values for the template that are null count as none. -/
def Spec.settled (s : Spec) : Spec :=
  match s.config with
  | some .null => { s with config := none }
  | _ => s

/-- What was asked for reads back, but for values that are null. -/
@[simp]
theorem Spec.decode_encode_settled (s : Spec) : Spec.decode s.encode = some s.settled := by
  unfold settled
  split
  · rename_i hnull
    obtain ⟨template, credential, config, dryRun⟩ := s
    subst hnull
    exact Spec.decode_encode { template, credential, config := none, dryRun } (by simp)
  · rename_i hconfig
    exact Spec.decode_encode s hconfig

/-- Null has no region. -/
@[simp]
theorem Spec.region?_settled (s : Spec) : region? s.settled.config = region? s.config := by
  unfold settled
  split
  · rename_i hnull
    rw [hnull]
    rfl
  · rfl

@[simp]
theorem Spec.template_settled (s : Spec) : s.settled.template = s.template := by
  unfold settled
  split <;> rfl

@[simp]
theorem Spec.credential_settled (s : Spec) : s.settled.credential = s.credential := by
  unfold settled
  split <;> rfl

/-! ## What is reported -/

@[simp]
theorem ReportedService.decode_encode (s : ReportedService) :
    ReportedService.decode s.encode = some s := by
  unfold ReportedService.decode decoder Decoder.record
  simp only [Seq.seq, Functor.map, Fields.seq, Fields.map, Fields.required, Fields.orElse,
    Fields.optional, Decoder.text, Decoder.list, Option.bind_eq_some_iff,
    Option.map_eq_some_iff, List.length_append, List.length_cons, List.length_nil]
  have hconditions :
      Json.list ReportedCondition.decode (.arr (s.conditions.map ReportedCondition.encode)) =
        some s.conditions :=
    Json.list_encode ReportedCondition.decode_encode s.conditions
  -- The members are applied one after the other, the first of them innermost.
  exact ⟨.named _, rfl, _, ⟨_, ⟨_, ⟨_, ⟨_, ⟨_, ⟨_, ⟨s.name, rfl, rfl⟩,
    _, Json.nullable_text s.ns, rfl⟩, _, Json.nullable_text s.template, rfl⟩,
    _, Json.nullable_text s.state, rfl⟩, _, Json.nullable_text s.type, rfl⟩,
    _, Json.nullable_text s.version, rfl⟩, _, hconditions, rfl⟩,
    _, Json.nullable_text s.lastStateTransitionTime, rfl⟩

/-- What is reported is read member by member. -/
theorem Status.decode_eq_some_iff {v : Json} {s : Status} :
    Status.decode v = some s ↔ ∃ l, layout 4 v = some l ∧
      l.orElse 0 "phase" none (nullable Json.text?) = some s.phase ∧
      l.orElse 1 "conditions" [] (Json.list ReportedCondition.decode) = some s.conditions ∧
      l.orElse 2 "services" [] (Json.list ReportedService.decode) = some s.services ∧
      l.orElse 3 "observedGeneration" none (nullable Decoder.whole64.decode) =
        some s.observedGeneration := by
  obtain ⟨phase, conditions, services, generation⟩ := s
  unfold Status.decode decoder Decoder.record
  simp only [Seq.seq, Functor.map, Fields.seq, Fields.map, Fields.orElse, Fields.optional,
    Decoder.text, Decoder.list, Option.bind_eq_some_iff, Option.map_eq_some_iff,
    List.length_append, List.length_cons, List.length_nil]
  constructor
  · rintro ⟨l, hl, f, ⟨g, ⟨k, ⟨p, hp, rfl⟩, c, hc, rfl⟩, ss, hss, rfl⟩, n, hn, h⟩
    cases h
    exact ⟨l, hl, hp, hc, hss, hn⟩
  · rintro ⟨l, hl, hp, hc, hss, hn⟩
    exact ⟨l, hl, _, ⟨_, ⟨_, ⟨_, hp, rfl⟩, _, hc, rfl⟩, _, hss, rfl⟩, _, hn, rfl⟩

/-- The generation is a number of 64 bits. -/
def Status.GenerationFits (s : Status) : Prop :=
  ∀ g ∈ s.observedGeneration, -9223372036854775808 ≤ g ∧ g ≤ 9223372036854775807

/-- A generation that was read is a number of 64 bits. -/
theorem Status.generationFits_of_decode {v : Json} {s : Status} (h : Status.decode v = some s) :
    s.GenerationFits := by
  obtain ⟨l, -, -, -, -, hgeneration⟩ := Status.decode_eq_some_iff.mp h
  intro g hg
  rw [Option.mem_def.mp hg] at hgeneration
  unfold Layout.orElse at hgeneration
  split at hgeneration
  · cases hgeneration
  · rename_i v' _
    have hwhole : Json.intBetween _ _ v' = some g := Json.some_of_nullable hgeneration
    unfold Json.intBetween at hwhole
    split at hwhole
    · split at hwhole
      · rename_i hbounds
        cases hwhole
        exact hbounds
      · cases hwhole
    · cases hwhole

/-- What is reported reads back. -/
@[simp]
theorem Status.decode_encode {s : Status} (h : s.GenerationFits) :
    Status.decode s.encode = some s := by
  refine Status.decode_eq_some_iff.mpr ⟨.named _, rfl, Json.nullable_text s.phase,
    Json.list_encode ReportedCondition.decode_encode s.conditions,
    Json.list_encode ReportedService.decode_encode s.services, ?_⟩
  show nullable Decoder.whole64.decode (encodeOption Json.int s.observedGeneration) = _
  cases hg : s.observedGeneration with
  | none => rfl
  | some g => simp [encodeOption, nullable, Decoder.whole64, Decoder.wholeBetween,
      Json.intBetween, h g hg]

/-! ## Deployments -/

namespace Deployment

/-- The deployment as a JSON value, with its metadata given as one. -/
def encodeWith (metadata : Json) (d : Deployment) : Json :=
  .obj ([("apiVersion", .str apiVersion), ("kind", .str kind), ("metadata", metadata),
    ("spec", d.spec.encode)] ++ Json.optionalMember "status" Status.encode d.status)

/-- A deployment is written with its metadata written. -/
theorem encode_eq_encodeWith (d : Deployment) : d.encode = d.encodeWith d.metadata.encode :=
  rfl

/-- What is reported written and read again, if anything is. -/
def rereadStatus? : Option Status → Option (Option Status)
  | none => some none
  | some s => (Status.decode s.encode).map some

/-- The deployment with what was asked for and what is reported written and read again. -/
def reread? (d : Deployment) : Option Deployment :=
  (Spec.decode d.spec.encode).bind fun spec =>
    (rereadStatus? d.status).map fun status => { d with spec := spec, status := status }

/-- An object is read member by member. -/
theorem decode_obj (members : List (String × Json)) :
    decode (.obj members) =
      ((Layout.named members).required 0 "metadata" Metadata.decode).bind fun m =>
        ((Layout.named members).required 1 "spec" Spec.decode).bind fun spec =>
          ((Layout.named members).orElse 2 "status" none (nullable Status.decode)).map fun status =>
            ⟨m, spec, status⟩ := by
  show Option.bind (Option.bind (Option.map mk (Layout.required _ 0 "metadata" Metadata.decode))
    fun f => Option.map f (Layout.required _ 1 "spec" Spec.decode)) (fun f =>
      Option.map f (Layout.orElse _ 2 "status" none (nullable Status.decode))) = _
  cases (Layout.named members).required 0 "metadata" Metadata.decode with
  | none => rfl
  | some m => cases (Layout.named members).required 1 "spec" Spec.decode <;> rfl

/-- However its metadata are written, reading a whole deployment again is reading its parts
again. -/
theorem decode_encodeWith {d : Deployment} {metadata : Json}
    (h : Metadata.decode metadata = some d.metadata) :
    decode (d.encodeWith metadata) = d.reread? := by
  obtain ⟨m, spec, status⟩ := d
  have hspec : Spec.decode spec.encode = some spec.settled := spec.decode_encode_settled
  rw [encodeWith, decode_obj]
  show Option.bind (Metadata.decode metadata) _ = _
  rw [h, Option.bind_some]
  show Option.bind (Spec.decode spec.encode) _ = _
  rw [hspec, Option.bind_some, reread?, hspec, Option.bind_some]
  cases status with
  | none => rfl
  | some s => rfl

/-- Where its metadata read back, reading a whole deployment again is reading its parts again. -/
@[simp]
theorem decode_encode {d : Deployment} (h : Metadata.decode d.metadata.encode = some d.metadata) :
    decode d.encode = d.reread? := by
  rw [encode_eq_encodeWith, decode_encodeWith h]

/-- The generation that is reported, if there is one, is a number of 64 bits. -/
def GenerationFits (d : Deployment) : Prop :=
  ∀ s ∈ d.status, s.GenerationFits

/-- The parts of a deployment that was read were read themselves. -/
theorem parts_of_decode {v : Json} {d : Deployment} (h : decode v = some d) :
    (∃ w, Spec.decode w = some d.spec) ∧ ∀ s ∈ d.status, ∃ w, Status.decode w = some s := by
  unfold decode decoder Decoder.record at h
  simp only [Seq.seq, Functor.map, Fields.seq, Fields.map, Fields.required, Fields.placed,
    Option.bind_eq_some_iff, Option.map_eq_some_iff] at h
  obtain ⟨l, -, f, ⟨g, ⟨m, -, rfl⟩, spec, hspec, rfl⟩, status, hstatus, rfl⟩ := h
  refine ⟨(Option.bind_eq_some_iff.mp hspec).imp fun w hw => hw.2, fun s hs => ?_⟩
  cases hs
  cases l with
  | named members =>
      dsimp only at hstatus
      unfold Layout.orElse at hstatus
      split at hstatus
      · cases hstatus
      · exact ⟨_, Json.some_of_nullable hstatus⟩
  | placed items =>
      obtain ⟨w, -, hw⟩ := Option.bind_eq_some_iff.mp hstatus
      exact ⟨w, Json.some_of_nullable hw⟩

/-- Rereading changes nothing but values for the template that are null. -/
theorem reread?_eq {d : Deployment} (h : d.GenerationFits) :
    d.reread? = some { d with spec := d.spec.settled } := by
  obtain ⟨m, spec, status⟩ := d
  rw [reread?, Spec.decode_encode_settled, Option.bind_some]
  cases status with
  | none => rfl
  | some s =>
      rw [rereadStatus?, Status.decode_encode (h s rfl)]
      rfl

/-- Null values for the template are not seen. -/
@[simp]
theorem snapshot_settled (d : Deployment) :
    { d with spec := d.spec.settled }.snapshot = d.snapshot := by
  simp only [snapshot, clusterInfo, Spec.template_settled, Spec.credential_settled,
    Spec.region?_settled]

/-- What was asked for or is reported and was read once stays the same when it is written and read
again, and is written as before.  Of any deployment, whatever its metadata are written as,
everything that is observed stays the same. -/
theorem reread_observed_alike :
    (∀ v s, Spec.decode v = some s →
      Spec.decode s.encode = some s ∧ (Spec.decode s.encode).map Spec.encode = some s.encode) ∧
    (∀ v s, Status.decode v = some s →
      Status.decode s.encode = some s ∧
        (Status.decode s.encode).map Status.encode = some s.encode) ∧
    (∀ v d, decode v = some d → d.GenerationFits ∧ d.reread? = some d) ∧
    ∀ d : Deployment, d.GenerationFits → ∃ d', d.reread? = some d' ∧
      (∀ metadata, Metadata.decode metadata = some d.metadata →
        decode (d.encodeWith metadata) = some d') ∧
      d'.snapshot = d.snapshot ∧
      ∀ events, d'.snapshot.classify events = d.snapshot.classify events ∧
        (d'.snapshot.classify events).estimate d'.snapshot.conditions =
          (d.snapshot.classify events).estimate d.snapshot.conditions ∧
        d'.snapshot.summarize (d'.snapshot.classify events) =
          d.snapshot.summarize (d.snapshot.classify events) := by
  have hspec : ∀ v s, Spec.decode v = some s → Spec.decode s.encode = some s :=
    fun v s h => Spec.decode_encode s (Spec.config_ne_null_of_decode h)
  have hstatus : ∀ v s, Status.decode v = some s → Status.decode s.encode = some s :=
    fun v s h => Status.decode_encode (Status.generationFits_of_decode h)
  refine ⟨fun v s h => ⟨hspec v s h, by rw [hspec v s h]; rfl⟩,
    fun v s h => ⟨hstatus v s h, by rw [hstatus v s h]; rfl⟩, fun v d h => ?_, fun d h => ?_⟩
  · obtain ⟨⟨w, hw⟩, hreported⟩ := parts_of_decode h
    have hfits : d.GenerationFits := fun s hs =>
      Status.generationFits_of_decode (hreported s hs).choose_spec
    refine ⟨hfits, ?_⟩
    have hsame : d.spec.settled = d.spec :=
      Option.some.inj ((Spec.decode_encode_settled d.spec).symm.trans (hspec w d.spec hw))
    rw [reread?_eq hfits, hsame]
  · have hsnapshot := snapshot_settled d
    refine ⟨_, reread?_eq h, fun metadata hm => ?_, hsnapshot, fun events => ?_⟩
    · rw [decode_encodeWith hm, reread?_eq h]
    · rw [hsnapshot]
      exact ⟨rfl, rfl, rfl⟩

/-- What was asked for leaves members out, gives one as null and has one that is not known.  The
deployment has null for its values, which it loses, and reports a condition twice. -/
theorem reread_observed_alike_of_null_values :
    let asked : Json := .obj [("template", .str "aws-cp"), ("credential", .null),
      ("nodes", .int 3)]
    let spec : Spec := ⟨"aws-cp", none, none, false⟩
    let report (status : String) : ReportedCondition :=
      ⟨"InfrastructureReady", status, none, none, none⟩
    let d : Deployment :=
      ⟨.blank, ⟨"aws-cp", none, some .null, false⟩,
        some ⟨none, [report "True", report "False"], [], some 9223372036854775807⟩⟩
    Spec.decode asked = some spec ∧ Spec.decode spec.encode = some spec ∧
      ∃ d', d.reread? = some d' ∧ decode (d.encodeWith d.metadata.encode) = some d' ∧
        d'.snapshot = d.snapshot ∧ d'.snapshot.classify [] = .provisioning := by
  intro asked spec report d
  have hasked : Spec.decode asked = some spec := rfl
  have hfits : d.GenerationFits := by
    intro s hs g hg
    cases hs
    cases hg
    decide
  have hphase : d.snapshot.classify [] = .provisioning := by
    decide +kernel
  obtain ⟨hspec, -, -, hdeployment⟩ := reread_observed_alike
  obtain ⟨d', hreread, hwhole, hsnapshot, hobserved⟩ := hdeployment d hfits
  exact ⟨hasked, (hspec asked spec hasked).1, d', hreread,
    hwhole _ Metadata.decode_encode_blank, hsnapshot, (hobserved []).1.trans hphase⟩

end Deployment
end ProvisionWatch
