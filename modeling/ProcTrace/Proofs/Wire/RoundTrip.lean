import ProcTrace.Proofs.Json.RoundTrip
import ProcTrace.Proofs.Timestamp.RoundTrip
import ProcTrace.Wire.Reader
import ProcTrace.Wire.Writer

/-!
# Messages are read back from the texts that are written for them

Every record of `ProcTrace.Wire.Message` has one **canonical** text: the one that is written for it.
It is read back as the same record, whatever the numbers, the texts, the lists and the times in it
are (`messages_roundTrip`). So a text that is read, written and read again is after that the same,
even if it had spaces, unknown members or another order at first.
-/

namespace ProcTrace

open Json (Record writeNat writeText)
open Json.Record (Fills reader_reads)

namespace Wire

/-! ### The members of messages -/

theorem word32_reads (n : UInt32) : word32.Reads (writeNat n.toNat) n := by
  have hmax : n.toNat ≤ UInt32.size - 1 := Nat.le_sub_one_of_lt n.toNat_lt_size
  have hword : n.toNat ≤ Json.wordMax := Nat.le_trans hmax (by decide)
  have hreads := (Json.natural_reads "u32" hmax hword).map UInt32.ofNat
  rwa [UInt32.ofNat_toNat] at hreads

theorem word64_reads (n : UInt64) : word64.Reads (writeNat n.toNat) n := by
  have hmax : n.toNat ≤ UInt64.size - 1 := Nat.le_sub_one_of_lt n.toNat_lt_size
  have hreads := (Json.natural_reads "usize" hmax hmax).map UInt64.ofNat
  rwa [UInt64.ofNat_toNat] at hreads

theorem text_reads (s : String) : Json.text.Reads (writeText s.toList) s :=
  Json.textVia_reads (congrArg Except.ok String.ofList_toList)

private theorem instant_reads (t : Timestamp.Instant) :
    instant.Reads (writeText (Timestamp.write t)) t :=
  Json.textVia_reads (by rw [Timestamp.read_write])

/-! ### Messages -/

private theorem registerRequest_reads (x : RegisterRequest) :
    registerRequest.reader.Reads x.json x :=
  reader_reads (.cons rfl rfl ((word32_reads x.pid).map _) (.nil _)) rfl

theorem registerResponse_reads (x : RegisterResponse) : registerResponse.reader.Reads x.json x :=
  reader_reads
    (.cons rfl rfl ((word32_reads x.pid).map _)
      (.cons rfl rfl ((word64_reads x.threads).map _)
        (.cons rfl rfl ((text_reads x.message).map _) (.nil _)))) rfl

theorem processInfo_reads (x : ProcessInfo) : processInfo.reader.Reads x.json x :=
  reader_reads
    (.cons rfl rfl ((word32_reads x.pid).map _)
      (.cons rfl rfl ((word64_reads x.threadCount).map _)
        (.cons rfl rfl ((instant_reads x.registeredAt).map _) (.nil _)))) rfl

theorem listResponse_reads (x : ListResponse) : listResponse.reader.Reads x.json x :=
  reader_reads
    (.cons rfl rfl ((Json.list_reads processInfo_reads x.processes).map _)
      (.cons rfl rfl ((word64_reads x.total).map _) (.nil _))) rfl

theorem errorResponse_reads (x : ErrorResponse) : errorResponse.reader.Reads x.json x :=
  reader_reads (.cons rfl rfl ((text_reads x.error).map _) (.nil _)) rfl

private theorem serviceConfig_reads (x : ServiceConfig) : serviceConfig.reader.Reads x.json x :=
  reader_reads (.cons rfl rfl ((text_reads x.url).map _) (.nil _)) rfl

private theorem tracerConfig_reads (x : TracerConfig) : tracerConfig.reader.Reads x.json x :=
  reader_reads (.cons rfl rfl ((serviceConfig_reads x.service).map _) (.nil _)) rfl

/-! ### The main statement -/

/-- A record and a way to write its values **round-trip**. -/
structure RoundTrips {σ α : Type} (record : Record σ α) (json : α → List Char) : Prop where
  /-- What is written for a value is parsed as this value. -/
  parse_json : ∀ a, parse record (String.ofList (json a)) = .ok a
  /-- A text that is parsed as some value can be replaced by what is written for it: this is parsed
  as the same value, and whatever it is parsed as is written in the same way. -/
  canonical : ∀ text a, parse record text = .ok a →
    parse record (String.ofList (json a)) = .ok a ∧
      ∀ b, parse record (String.ofList (json a)) = .ok b → json b = json a

/-- A record round-trips if its reader reads what is written for its values. -/
theorem roundTrips_of_reads {σ α : Type} {record : Record σ α} {json : α → List Char}
    (h : ∀ a, record.reader.Reads (json a) a) : RoundTrips record json := by
  have hparse (a : α) : parse record (String.ofList (json a)) = .ok a := by
    rw [parse, String.toList_ofList]
    exact (h a).parse
  refine ⟨hparse, fun text a _ => ⟨hparse a, fun b hb => ?_⟩⟩
  rw [hparse a] at hb
  cases hb
  rfl

/-- **Every message round-trips**: requests, all answers of the service, and the configuration. -/
theorem messages_roundTrip :
    RoundTrips registerRequest RegisterRequest.json ∧
      RoundTrips registerResponse RegisterResponse.json ∧
      RoundTrips processInfo ProcessInfo.json ∧
      RoundTrips listResponse ListResponse.json ∧
      RoundTrips errorResponse ErrorResponse.json ∧
      RoundTrips tracerConfig TracerConfig.json :=
  ⟨roundTrips_of_reads registerRequest_reads, roundTrips_of_reads registerResponse_reads,
    roundTrips_of_reads processInfo_reads, roundTrips_of_reads listResponse_reads,
    roundTrips_of_reads errorResponse_reads, roundTrips_of_reads tracerConfig_reads⟩

end Wire

end ProcTrace
