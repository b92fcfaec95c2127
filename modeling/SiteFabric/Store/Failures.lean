import SiteFabric.Store.Opening
import SiteFabric.Lib.Run

/-! Operations that fail.
A ledger follows a store through appends and compactions and keeps what was
acknowledged. A failure is harmless when it leaves the file on a boundary and
the handle open: a write that left nothing or everything, and a compaction that
did not lose the handle on the way. -/

namespace SiteFabric.Store

open Lib Lib.Reader

inductive Operation where
  | append (io : Answers) (c : Content)
  | compact (io : Answers)

/-- A store, what it held when it was opened or last compacted, and the values
it has acknowledged since. -/
structure Ledger where
  store : SiteStore
  base : StoreContents
  appended : List Content := []

namespace Ledger

/-- The bytes of a record that a write leaves in the file. -/
def written (io : Answers) (c : Content) : Nat := c.record.length - io.shortfall

/-- A value that passes the checks an append makes before it writes. -/
structure Reaches (s : SiteStore) (c : Content) : Prop where
  handle : s.handle = true
  fits : c.payload.length ≤ Limits.maxRecordPayloadBytes
  room : s.bytes + c.record.length ≤ s.config.maxBytes
  records : s.records + 1 ≤ s.config.maxRecords

/-- The handle is open, the file ends on a boundary, and what was acknowledged
is in it. -/
structure Sound (l : Ledger) : Prop where
  handle : l.store.handle = true
  bounded : l.store.config.maxBytes ≤ Limits.maxMaxStoreBytes
  file : ∃ (head : List UInt8) (segments : List Segment), Headed head ∧
    l.store.file = some (head ++ joined segments) ∧
    (head ++ joined segments).length ≤ Limits.maxMaxStoreBytes ∧
    ∃ decoded, List.Forall₂ (fun c d => decodeRecord c.type c.payload = .ok (some d))
        l.appended decoded ∧
      (l.base.held ++ decoded).Subperm (accepted segments)

section

variable [StdSort]

def start (s : SiteStore) : Ledger := { store := s, base := s.load }

def step (l : Ledger) : Operation → Ledger
  | .append io c =>
    { store := (l.store.append io c).2, base := l.base
      appended := if (l.store.append io c).1 = .ok then l.appended ++ [c] else l.appended }
  | .compact io =>
    if (l.store.compact io).1 = .ok then start (l.store.compact io).2.1
    else { l with store := (l.store.compact io).2.1 }

/-- A write leaves nothing, or a whole record that reads back in a file that can
still be read; a compaction is refused before it closes the handle, or replaces
the file. -/
def Harmless (l : Ledger) : Operation → Prop
  | .append io c => Reaches l.store c → written io c = 0 ∨
      (written io c = c.record.length ∧ c.recoverable = true ∧
        ∀ image, l.store.file = some image →
          (image ++ c.record).length ≤ Limits.maxMaxStoreBytes)
  | .compact io => io.replaced.isOk = true ∨
      l.store.config.maxBytes < (SiteStore.compactedImage l.store.config l.store.load).length

theorem Sound.returned {l : Ledger} (sound : l.Sound) :
    Returned l.base l.appended l.store.load := by
  obtain ⟨head, segments, headed, file, within, decoded, decodes, held⟩ := sound.file
  refine ⟨decoded, decodes, ?_⟩
  rw [SiteStore.load_eq file within, scanImage_clean headed]
  exact held.trans (held_collect _ _).symm.subperm

theorem Sound.start {s : SiteStore} {image : List UInt8} (intact : s.Intact image) :
    (start s).Sound := by
  obtain ⟨head, segments, headed, split, within⟩ := intact.layout
  refine ⟨intact.handle, intact.bounded, head, segments, headed, split ▸ intact.file,
    split ▸ within, [], .nil, ?_⟩
  rw [List.append_nil, Ledger.start, SiteStore.load_eq intact.file within, split,
    scanImage_clean headed]
  exact (held_collect _ _).subperm

end

def unflushed : List Operation := [.append { flushed := false } sampleTombstone]

end Ledger

end SiteFabric.Store
