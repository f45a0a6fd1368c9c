import ProvisionWatch.Proofs.Json.Members
import ProvisionWatch.Proofs.Time.ReadBack
import ProvisionWatch.Update.Codec

/-!
# Updates that go over the wire

An update is written member by member and read member by member, and each member
is left out and defaulted on both sides in the same way.  Only times go through a
text that may not tell them, so an update reads back exactly if its text can tell
its times.  All times that are read are of that kind.

Main results:

- Theorems `ClusterInfo.decode_encode` and `Service.decode_encode`: what an update
  holds reads back.
- Theorem `Update.decode_encode`: so does an update whose times do.
- Theorem `Update.isReadable_of_decode`: the times of an update that was read do.
- Theorem `Update.reads_back_iff_times_do`: which updates read back, and that
  those which were read are among them.
-/

namespace ProvisionWatch

open Json (Layout layout nullable optionalMember lookup)

/-! ## What an update holds -/

theorem Instant.isReadable_of_decode {v : Json} {t : Instant} (h : Instant.decode v = some t) :
    t.IsReadable := by
  unfold Instant.decode at h
  split at h
  · exact Instant.isReadable_of_read? h
  · cases h

/-- Identity and context are read member by member. -/
theorem ClusterInfo.decode_eq_some_iff {v : Json} {c : ClusterInfo} :
    ClusterInfo.decode v = some c ↔ ∃ l, layout 7 v = some l ∧
      l.required 0 "name" Json.text? = some c.name ∧
      l.required 1 "namespace" Json.text? = some c.ns ∧
      l.required 2 "template" Json.text? = some c.template ∧
      l.orElse 3 "credential" none (nullable Json.text?) = some c.credential ∧
      l.orElse 4 "provider" none (nullable Json.text?) = some c.provider ∧
      l.orElse 5 "region" none (nullable Json.text?) = some c.region ∧
      l.orElse 6 "createdAt" none (nullable Instant.decode) = some c.createdAt := by
  constructor
  · intro h
    obtain ⟨l, hl, h⟩ := Option.bind_eq_some_iff.mp h
    obtain ⟨_, hname, h⟩ := Option.bind_eq_some_iff.mp h
    obtain ⟨_, hns, h⟩ := Option.bind_eq_some_iff.mp h
    obtain ⟨_, htemplate, h⟩ := Option.bind_eq_some_iff.mp h
    obtain ⟨_, hcredential, h⟩ := Option.bind_eq_some_iff.mp h
    obtain ⟨_, hprovider, h⟩ := Option.bind_eq_some_iff.mp h
    obtain ⟨_, hregion, h⟩ := Option.bind_eq_some_iff.mp h
    obtain ⟨_, hcreated, h⟩ := Option.bind_eq_some_iff.mp h
    cases h
    exact ⟨l, hl, hname, hns, htemplate, hcredential, hprovider, hregion, hcreated⟩
  · rintro ⟨l, hl, hname, hns, htemplate, hcredential, hprovider, hregion, hcreated⟩
    refine Option.bind_eq_some_iff.mpr ⟨l, hl, ?_⟩
    refine Option.bind_eq_some_iff.mpr ⟨_, hname, ?_⟩
    refine Option.bind_eq_some_iff.mpr ⟨_, hns, ?_⟩
    refine Option.bind_eq_some_iff.mpr ⟨_, htemplate, ?_⟩
    refine Option.bind_eq_some_iff.mpr ⟨_, hcredential, ?_⟩
    refine Option.bind_eq_some_iff.mpr ⟨_, hprovider, ?_⟩
    refine Option.bind_eq_some_iff.mpr ⟨_, hregion, ?_⟩
    refine Option.bind_eq_some_iff.mpr ⟨_, hcreated, ?_⟩
    rfl

/-- Identity and context read back if the time of creation does. -/
@[simp]
theorem ClusterInfo.decode_encode {c : ClusterInfo} (h : ∀ t ∈ c.createdAt, t.IsReadable) :
    ClusterInfo.decode c.encode = some c := by
  have hcreated : ∀ t ∈ c.createdAt, Instant.decode t.encode = some t :=
    fun t ht => Instant.read?_text_eq_some_iff.mpr (h t ht)
  refine decode_eq_some_iff.mpr ⟨.named _, rfl, rfl, rfl, rfl, Layout.orElse_text ?_ _,
    Layout.orElse_text ?_ _, Layout.orElse_text ?_ _,
    @Layout.orElse_of_lookup _ _ _ _ Instant.encode _ _ ?_ hcreated fun _ => nofun⟩ <;>
  simp

/-- A service is read from a value with these members. -/
theorem Service.decode_of_members {v : Json} {s : Service} {l : Layout} (hl : layout 8 v = some l)
    (hname : l.required 0 "name" Json.text? = some s.name)
    (hns : l.required 1 "namespace" Json.text? = some s.ns)
    (htemplate : l.required 2 "template" Json.text? = some s.template)
    (hstate : l.required 3 "state" Json.text? = some s.state)
    (htype : l.required 4 "type" Json.text? = some s.type)
    (hversion : l.required 5 "version" Json.text? = some s.version)
    (hconditions : l.required 6 "conditions" (Json.list Condition.decode) = some s.conditions)
    (hlast : l.orElse 7 "lastTransitionTime" none (nullable Json.text?) =
      some s.lastTransitionTime) :
    Service.decode v = some s := by
  refine Option.bind_eq_some_iff.mpr ⟨l, hl, ?_⟩
  refine Option.bind_eq_some_iff.mpr ⟨_, hname, ?_⟩
  refine Option.bind_eq_some_iff.mpr ⟨_, hns, ?_⟩
  refine Option.bind_eq_some_iff.mpr ⟨_, htemplate, ?_⟩
  refine Option.bind_eq_some_iff.mpr ⟨_, hstate, ?_⟩
  refine Option.bind_eq_some_iff.mpr ⟨_, htype, ?_⟩
  refine Option.bind_eq_some_iff.mpr ⟨_, hversion, ?_⟩
  refine Option.bind_eq_some_iff.mpr ⟨_, hconditions, ?_⟩
  refine Option.bind_eq_some_iff.mpr ⟨_, hlast, ?_⟩
  rfl

@[simp]
theorem Service.decode_encode (s : Service) : Service.decode s.encode = some s := by
  have hconditions :
      Json.list Condition.decode (.arr (s.conditions.map Condition.encode)) = some s.conditions :=
    Json.list_encode Condition.decode_encode s.conditions
  refine decode_of_members (l := .named _) rfl rfl rfl rfl rfl rfl rfl hconditions
    (Layout.orElse_text ?_ 7)
  simp

/-! ## Updates -/

@[simp]
theorem decodePercent_encodePercent (n : UInt8) : decodePercent (encodePercent n) = some n := by
  have hn : n.toNat < 256 := n.toNat_lt
  have hbounds : (0 : Int) ≤ n.toNat ∧ (n.toNat : Int) ≤ 255 := by omega
  simp [decodePercent, encodePercent, Json.intBetween, hbounds]

namespace Update

/-- Updates are read member by member. -/
theorem decode_eq_some_iff {v : Json} {u : Update} :
    decode v = some u ↔ ∃ l, layout 12 v = some l ∧
      l.required 0 "timestamp" Instant.decode = some u.timestamp ∧
      l.required 1 "phase" Phase.decode = some u.phase ∧
      l.orElse 2 "progress" none (nullable decodePercent) = some u.progress ∧
      l.required 3 "message" Json.text? = some u.message ∧
      l.required 4 "reason" Json.text? = some u.reason ∧
      l.required 5 "source" Source.decode = some u.source ∧
      l.required 6 "severity" Severity.decode = some u.severity ∧
      l.orElse 7 "relatedObject" none (nullable ObjectRef.decode) = some u.relatedObject ∧
      l.orElse 8 "conditions" [] (Json.list Condition.decode) = some u.conditions ∧
      l.required 9 "terminal" Json.bool? = some u.terminal ∧
      l.orElse 10 "cluster" none (nullable ClusterInfo.decode) = some u.cluster ∧
      l.orElse 11 "services" [] (Json.list Service.decode) = some u.services := by
  constructor
  · intro h
    obtain ⟨l, hl, h⟩ := Option.bind_eq_some_iff.mp h
    obtain ⟨_, htimestamp, h⟩ := Option.bind_eq_some_iff.mp h
    obtain ⟨_, hphase, h⟩ := Option.bind_eq_some_iff.mp h
    obtain ⟨_, hprogress, h⟩ := Option.bind_eq_some_iff.mp h
    obtain ⟨_, hmessage, h⟩ := Option.bind_eq_some_iff.mp h
    obtain ⟨_, hreason, h⟩ := Option.bind_eq_some_iff.mp h
    obtain ⟨_, hsource, h⟩ := Option.bind_eq_some_iff.mp h
    obtain ⟨_, hseverity, h⟩ := Option.bind_eq_some_iff.mp h
    obtain ⟨_, hrelated, h⟩ := Option.bind_eq_some_iff.mp h
    obtain ⟨_, hconditions, h⟩ := Option.bind_eq_some_iff.mp h
    obtain ⟨_, hterminal, h⟩ := Option.bind_eq_some_iff.mp h
    obtain ⟨_, hcluster, h⟩ := Option.bind_eq_some_iff.mp h
    obtain ⟨_, hservices, h⟩ := Option.bind_eq_some_iff.mp h
    cases h
    exact ⟨l, hl, htimestamp, hphase, hprogress, hmessage, hreason, hsource, hseverity, hrelated,
      hconditions, hterminal, hcluster, hservices⟩
  · rintro ⟨l, hl, htimestamp, hphase, hprogress, hmessage, hreason, hsource, hseverity, hrelated,
      hconditions, hterminal, hcluster, hservices⟩
    refine Option.bind_eq_some_iff.mpr ⟨l, hl, ?_⟩
    refine Option.bind_eq_some_iff.mpr ⟨_, htimestamp, ?_⟩
    refine Option.bind_eq_some_iff.mpr ⟨_, hphase, ?_⟩
    refine Option.bind_eq_some_iff.mpr ⟨_, hprogress, ?_⟩
    refine Option.bind_eq_some_iff.mpr ⟨_, hmessage, ?_⟩
    refine Option.bind_eq_some_iff.mpr ⟨_, hreason, ?_⟩
    refine Option.bind_eq_some_iff.mpr ⟨_, hsource, ?_⟩
    refine Option.bind_eq_some_iff.mpr ⟨_, hseverity, ?_⟩
    refine Option.bind_eq_some_iff.mpr ⟨_, hrelated, ?_⟩
    refine Option.bind_eq_some_iff.mpr ⟨_, hconditions, ?_⟩
    refine Option.bind_eq_some_iff.mpr ⟨_, hterminal, ?_⟩
    refine Option.bind_eq_some_iff.mpr ⟨_, hcluster, ?_⟩
    refine Option.bind_eq_some_iff.mpr ⟨_, hservices, ?_⟩
    rfl

/-- The times that an update tells. -/
def times (u : Update) : List Instant :=
  u.timestamp :: (u.cluster.bind ClusterInfo.createdAt).toList

/-- An update reads back if its times do. -/
@[simp]
theorem decode_encode {u : Update} (h : ∀ t ∈ u.times, t.IsReadable) :
    decode u.encode = some u := by
  have htimestamp : Instant.decode u.timestamp.encode = some u.timestamp :=
    Instant.read?_text_eq_some_iff.mpr (h u.timestamp List.mem_cons_self)
  have hcluster : ∀ c ∈ u.cluster, ClusterInfo.decode c.encode = some c := by
    intro c hc
    refine ClusterInfo.decode_encode fun t ht => h t (List.mem_cons_of_mem _ ?_)
    rw [Option.mem_toList, Option.mem_def.mp hc]
    exact ht
  have htext (text : String) : Json.text? (.str text) = some text := rfl
  refine decode_eq_some_iff.mpr ⟨.named _, rfl,
    Layout.required_of_lookup ?_ htimestamp,
    Layout.required_of_lookup ?_ u.phase.decode_encode,
    Layout.orElse_of_lookup ?_ (fun n _ => decodePercent_encodePercent n) fun _ => nofun,
    Layout.required_of_lookup ?_ (htext u.message),
    Layout.required_of_lookup ?_ (htext u.reason),
    Layout.required_of_lookup ?_ u.source.decode_encode,
    Layout.required_of_lookup ?_ u.severity.decode_encode,
    Layout.orElse_of_lookup ?_ (fun o _ => ObjectRef.decode_encode o) fun _ => nofun,
    Layout.orElse_of_present ?_ (Json.list_encode Condition.decode_encode u.conditions),
    Layout.required_of_lookup ?_ (show Json.bool? (.bool u.terminal) = some u.terminal from rfl),
    Layout.orElse_of_lookup ?_ hcluster fun _ => nofun,
    Layout.orElse_of_present ?_ (Json.list_encode Service.decode_encode u.services)⟩ <;>
  simp

theorem mem_times {u : Update} {t : Instant} :
    t ∈ u.times ↔ t = u.timestamp ∨ ∃ c, u.cluster = some c ∧ c.createdAt = some t := by
  cases h : u.cluster <;> simp [times, h]

/-- The text can tell the times of an update that was read. -/
theorem isReadable_of_decode {v : Json} {u : Update} (h : decode v = some u) :
    ∀ t ∈ u.times, t.IsReadable := by
  obtain ⟨l, -, htimestamp, -, -, -, -, -, -, -, -, -, hcluster, -⟩ := decode_eq_some_iff.mp h
  intro t ht
  rcases mem_times.mp ht with rfl | ⟨c, hc, hcreated⟩
  · obtain ⟨w, hw⟩ := Layout.exists_of_required htimestamp
    exact Instant.isReadable_of_decode hw
  · rw [hc] at hcluster
    obtain ⟨w, hw⟩ := Layout.exists_of_orElse hcluster
    obtain ⟨l', -, -, -, -, -, -, -, hl'⟩ := ClusterInfo.decode_eq_some_iff.mp hw
    rw [hcreated] at hl'
    obtain ⟨w', hw'⟩ := Layout.exists_of_orElse hl'
    exact Instant.isReadable_of_decode hw'

/-- An update reads back if and only if its text can tell its times, and what was read once reads
back. -/
theorem reads_back_iff_times_do :
    (∀ u : Update, decode u.encode = some u ↔ ∀ t ∈ u.times, t.IsReadable) ∧
      ∀ (v : Json) (u : Update), decode v = some u → decode u.encode = some u :=
  ⟨fun _ => ⟨isReadable_of_decode, decode_encode⟩,
    fun _ _ h => decode_encode (isReadable_of_decode h)⟩

/-- The estimate is beyond 100, the cluster was made in the middle of a leap second, and a service
has never changed.  The value that is read has the leap second in another zone, gives null for what
is absent, and leaves out the conditions.  No text tells a leap second after 30 seconds. -/
theorem reads_back_iff_times_do_of_leap_second :
    let made : Instant := ⟨1483228799, 1500000000, by decide, by decide, by decide⟩
    let service : Service :=
      ⟨"cni", "kube-system", "cilium", "Deployed", "Helm", "1.16",
        [⟨"Ready", "False", "", "pulling"⟩], none⟩
    let u : Update :=
      ⟨default, .installing, some 255, "waiting", "Pulling", .condition, .warning,
        some ⟨"Pod", "cilium-0", none⟩, [], false,
        some ⟨"prod", "kcm", "aws-cp", none, some "aws", none, some made⟩, [service]⟩
    let v : Json := .obj [("services", .arr [service.encode]), ("terminal", .bool false),
      ("cluster", .obj [("name", .str "prod"), ("namespace", .str "kcm"),
        ("template", .str "aws-cp"), ("credential", .null), ("provider", .str "aws"),
        ("createdAt", .str "2017-01-01t00:59:60.5+01:00"), ("nodes", .int 3)]),
      ("relatedObject", .obj [("kind", .str "Pod"), ("name", .str "cilium-0")]),
      ("timestamp", .str "1970-01-01 00:00:00 UTC"), ("phase", .str "Installing"),
      ("progress", .int 255), ("message", .str "waiting"), ("reason", .str "Pulling"),
      ("source", .str "condition"), ("severity", .str "warning")]
    let odd : Update := { u with timestamp := ⟨30, 1000000000, by decide, by decide, by decide⟩ }
    decode v = some u ∧ decode u.encode = some u ∧
      (∀ t ∈ u.times, t.IsReadable) ∧ decode odd.encode ≠ some odd := by
  intro made service u v odd
  have hread : decode v = some u := by
    decide +kernel
  have hodd : ¬ ∀ t ∈ odd.times, t.IsReadable := by
    decide
  obtain ⟨hiff, hagain⟩ := reads_back_iff_times_do
  have hback : decode u.encode = some u := hagain v u hread
  exact ⟨hread, hback, (hiff u).mp hback, fun h => hodd ((hiff odd).mp h)⟩

end Update
end ProvisionWatch
