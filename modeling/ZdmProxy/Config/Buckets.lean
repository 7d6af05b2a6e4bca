import ZdmProxy.Lib.FloatText
import ZdmProxy.Lib.ExceptMap

/-!
# Latency bucket settings

The proxy's latency histograms take their bucket bounds from three settings, in milliseconds
separated by commas (`ParseOriginBuckets`, `ParseTargetBuckets`, `ParseAsyncBuckets`,
`config.go`). `parseBuckets` splits the text at the commas, trims each piece, parses it as a
float and divides it by 1000. `Validate` parses the origin and the target settings when the
proxy starts; the async setting is parsed only when the proxy builds its metrics.

A histogram needs bounds in strictly increasing order, and the Prometheus library panics
otherwise. Every setting `parseBuckets` accepts gives at least one bound
(`parseBuckets_ne_nil`), but nothing checks their order: `10,5` passes `Validate` and gives
decreasing bounds (`parseBuckets_accepts_decreasing_buckets`).
-/

namespace ZdmProxy.Config

open FloatText

/-- `Config.parseBuckets`: the bounds in seconds, or the error for the first piece that is not a
float. -/
def parseBuckets (bucketsConfigStr : String) : Except String (List FloatValue) :=
  let bucketsStrArr := bucketsConfigStr.toList.splitOn ','
  if bucketsStrArr.length = 0 then
    .error s!"unable to parse buckets from {bucketsConfigStr}: at least one bucket is required"
  else
    bucketsStrArr.mapM fun bucketStr =>
      match parseFloat (trimSpace bucketStr) with
      | none =>
          let bucket := String.ofList bucketStr
          .error s!"unable to parse buckets from {bucketsConfigStr}: could not convert {bucket} to float"
      -- convert ms to seconds
      | some bucket => .ok (bucket.shift 3)

/-- The latency bucket settings. -/
structure BucketSettings where
  metricsOriginLatencyBucketsMs : String
  metricsTargetLatencyBucketsMs : String
  metricsAsyncReadLatencyBucketsMs : String

namespace BucketSettings

/-- `ParseOriginBuckets`. -/
def parseOriginBuckets (settings : BucketSettings) : Except String (List FloatValue) :=
  parseBuckets settings.metricsOriginLatencyBucketsMs

/-- `ParseTargetBuckets`. -/
def parseTargetBuckets (settings : BucketSettings) : Except String (List FloatValue) :=
  parseBuckets settings.metricsTargetLatencyBucketsMs

/-- `ParseAsyncBuckets`. -/
def parseAsyncBuckets (settings : BucketSettings) : Except String (List FloatValue) :=
  parseBuckets settings.metricsAsyncReadLatencyBucketsMs

/-- The bucket checks of `Config.Validate`: the origin and the target settings. -/
def validate (settings : BucketSettings) : Except String Unit :=
  match settings.parseOriginBuckets with
  | .error err => .error s!"could not parse origin buckets: {err}"
  | .ok _ =>
      match settings.parseTargetBuckets with
      | .error err => .error s!"could not parse target buckets: {err}"
      | .ok _ => .ok ()

end BucketSettings

/-- Every accepted setting has one bound per comma-separated piece, so at least one. -/
theorem parseBuckets_ne_nil {bucketsConfigStr : String} {buckets : List FloatValue}
    (accepted : parseBuckets bucketsConfigStr = .ok buckets) : buckets ≠ [] := by
  have pieces := List.splitOn_ne_nil ',' bucketsConfigStr.toList
  unfold parseBuckets at accepted
  rw [if_neg (List.length_pos_of_ne_nil pieces).ne'] at accepted
  have lengths := (ExceptMap.mapM_eq_ok_iff.mp accepted).length_eq
  intro empty
  rw [empty, List.length_nil] at lengths
  exact pieces (List.eq_nil_of_length_eq_zero lengths)

/-- Settings of 10 ms then 5 ms for the origin and the target buckets, and an async setting
that is not a number. -/
def decreasingBuckets : BucketSettings := ⟨"10,5", "10,5", "ten"⟩

/-- `Validate` accepts bucket bounds in decreasing order: `10,5` gives 0.01 s then 0.005 s,
which a histogram refuses; and it does not look at the async setting at all. -/
theorem parseBuckets_accepts_decreasing_buckets :
    decreasingBuckets.validate = .ok () ∧
      decreasingBuckets.parseOriginBuckets = .ok [.finite ⟨10, -3⟩, .finite ⟨5, -3⟩] ∧
      strictlyIncreasing [.finite ⟨10, -3⟩, .finite ⟨5, -3⟩] = false ∧
      decreasingBuckets.parseAsyncBuckets =
        .error "unable to parse buckets from ten: could not convert ten to float" := by
  decide +kernel

end ZdmProxy.Config
