import Preflight.Document

/-!
# Filters

The data of a stream may be encoded by filters, which its dictionary names. The filters are not
described here: taking them back is left to a decoder that is given, and all that is said of streams
holds whatever it gives.
-/

namespace Preflight

/-- A decoder of stream data. -/
class StreamDecoder where
  /-- The data of a stream with the filters taken back that its dictionary has to name. -/
  decode : Stream → Except AccessFault Bytes

/-- The decoder that knows no filters. -/
@[reducible] def StreamDecoder.withoutFilters : StreamDecoder where
  decode stream := do
    let _ ← stream.dictionary.expect "Filter"
    throw (.described "missing feature: decompression algorithms")

end Preflight
