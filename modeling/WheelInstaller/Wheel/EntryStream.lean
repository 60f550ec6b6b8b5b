import WheelInstaller.Stream.Source
import WheelInstaller.Wheel.Error

/-! The content of one archive entry while it is read. The size that the index declares is a lower
bound: fewer bytes mean that the entry is truncated, whatever else is right about it. -/

namespace WheelInstaller

/-- An entry that is being read. -/
structure EntryStream (σ : Type := Stream.Source) where
  archive : Path
  entry : String
  expected : Nat
  consumed : Nat := 0
  source : σ

namespace EntryStream

variable {σ : Type}

/-- The largest entry that is read as one text. -/
def textLimit : Nat := 16777216

/-- How many bytes are asked for at once when an entry is read as one text. -/
def textBuffer : Nat := 8192

/-- How many bytes are asked for at once when an entry is copied. -/
def copyBuffer : Nat := 65536

/-- The error for an entry that ended too early. -/
def truncation (stream : EntryStream σ) : ArchiveError :=
  .truncated stream.entry stream.expected stream.consumed

def oversize (stream : EntryStream σ) (size : Nat) : ArchiveError :=
  .corrupt stream.archive (.oversizedText stream.entry size textLimit)

/-- What the end of the source means for the entry. -/
def conclude (stream : EntryStream σ) (ending : Stream.Ending) : Except ArchiveError Unit :=
  match ending with
  | .finished => if stream.consumed < stream.expected then .error stream.truncation else .ok ()
  | .cutShort => .error stream.truncation
  | .failed reason => .error (.corrupt stream.archive (.content stream.entry reason))

def advance (stream : EntryStream σ) (chunk : ByteArray) (source : σ) : EntryStream σ :=
  { stream with consumed := stream.consumed + chunk.size, source }

section
variable [Stream.Reader σ]

/-- Reads at most `limit` bytes. No bytes are read only at the end of the entry, or into no room. -/
def readChunk (stream : EntryStream σ) (limit : Nat) :
    Except ArchiveError ByteArray × EntryStream σ :=
  if limit = 0 then (.ok .empty, stream)
  else
    match Stream.read limit stream.source with
    | .ok (chunk, source) => (.ok chunk, stream.advance chunk source)
    | .error ending =>
      match stream.conclude ending with
      | .ok () => (.ok .empty, stream)
      | .error error => (.error error, stream)

/-- The bytes that are held of an entry, the state reached, and whether that is all of it. -/
structure Gathered (σ : Type) where
  held : ByteArray
  stream : EntryStream σ
  outcome : Except ArchiveError Unit

/-- Reads the rest of an entry after the bytes held already. An entry that grows too long is given
up at once, so this comes to an end even if the entry does not. -/
def gather (stream : EntryStream σ) (held : ByteArray) : Gathered σ :=
  match found : Stream.read textBuffer stream.source with
  | .ok (chunk, source) =>
    have : 0 < chunk.size := (Stream.fits_of_read (by decide) found).1
    let next := stream.advance chunk source
    if textLimit < held.size + chunk.size then ⟨held, next, .error (next.oversize next.consumed)⟩
    else next.gather (held ++ chunk)
  | .error ending => ⟨held, stream, stream.conclude ending⟩
termination_by textLimit - held.size
decreasing_by
  rw [ByteArray.size_append]
  omega

/-- Gathers a whole entry, unless it declares to be too long already. -/
def gatherText (stream : EntryStream σ) : Gathered σ :=
  if textLimit < stream.expected then ⟨.empty, stream, .error (stream.oversize stream.expected)⟩
  else stream.gather .empty

def readText (stream : EntryStream σ) : Except ArchiveError String := do
  let gathered := stream.gatherText
  gathered.outcome
  match String.fromUTF8? gathered.held with
  | some text => return text
  | none => .error (.corrupt stream.archive (.notText stream.entry))

end

/-- The chunks up to the end of an entry, the state reached, and what the end says. -/
structure Drained where
  chunks : List ByteArray
  stream : EntryStream
  outcome : Except ArchiveError Unit

/-- Reads the rest of an entry in chunks of the size used for copying. -/
def drain (stream : EntryStream) : Drained :=
  match found : Stream.read copyBuffer stream.source with
  | .ok (chunk, source) =>
    have : source.weight < stream.source.weight := Stream.Source.weight_of_read (by decide) found
    let rest := (stream.advance chunk source).drain
    { rest with chunks := chunk :: rest.chunks }
  | .error ending => ⟨[], stream, stream.conclude ending⟩
termination_by stream.source.weight

end EntryStream
end WheelInstaller
