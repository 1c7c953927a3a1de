import Mathlib.Control.Monad.Basic
import ModuleMapper.Proofs.Writing

/-!
# Short writes — an output stream, like every sink, keeps a front of what is sent

  What holds of a sink that keeps a limit holds of an output stream: blocks that are sent one after another,
  behind failures too, leave the front of their bytes that lies below the limit, and a block is said to be
  sent exactly if it and all before it lie there, or it has no bytes, and the stream flushes.
-/

namespace ModuleMapper

namespace Wire

section Limited

variable {output : OutputStream} (hatOnce : ∀ most ∈ output.atOnce, 0 < most)
  (hfits : Fits output.limit output.written)

include hatOnce hfits

/-- Of blocks that are sent the front stands on the stream that fits its limit. -/
theorem written_sendAll_eq_cut (blocks : List Block) :
    (sendAll blocks output).written = cut output.limit (output.written ++ blocks.flatMap Block.encode) := by
  have hkeeps := Sink.keeps_ofStream output.limit output.flushFault
  exact (hkeeps.sendAll blocks ⟨rfl, rfl, hatOnce⟩ hfits).1

/-- A block is sent exactly if the stream flushes, and it fits behind all that came before it or is empty. -/
theorem send_sendAll_eq_ok_iff (earlier : List Block) (block : Block) :
    (send block (sendAll earlier output)).1 = .ok ()
      ↔ output.flushFault = none
        ∧ (block.encode = []
          ∨ Fits output.limit (output.written ++ (earlier ++ [block]).flatMap Block.encode)) := by
  have hkeeps := Sink.keeps_ofStream output.limit output.flushFault
  obtain ⟨htaken, hsound⟩ := hkeeps.sendAll earlier ⟨rfl, rfl, hatOnce⟩ hfits
  have hwritten := hkeeps.writeAll block.encode hsound (htaken.symm ▸ fits_cut _ _)
  have hflush : (Sink.ofStream.flush
        (Sink.ofStream.writeAll block.encode (Sink.ofStream.sendAll earlier output)).2).1 = .ok ()
      ↔ output.flushFault = none := by
    rw [← hwritten.sound.2.1]
    exact OutputStream.flush_eq_ok_iff
  have hsent := hkeeps.send_iff earlier block ⟨rfl, rfl, hatOnce⟩ hfits
  rw [hflush] at hsent
  exact hsent

end Limited

/-- **Sending survives short writes.**  Of blocks that are sent one after another, behind failures too, there
    stands on the stream the front of their bytes that fits its limit, whatever a write takes of what it is
    offered.  And a block is said to be sent exactly if the flush succeeds and it has no bytes, or it and all
    before it fit.  The same is true of everything that keeps a limit, though it take another number of
    bytes at each write and now flush and now not. -/
theorem send_survives_short_writes (blocks : List Block) :
    (∀ output : OutputStream, (∀ most ∈ output.atOnce, 0 < most) → Fits output.limit output.written →
        (sendAll blocks output).written = cut output.limit (output.written ++ blocks.flatMap Block.encode)
          ∧ ∀ earlier block later, blocks = earlier ++ block :: later →
              ((send block (sendAll earlier output)).1 = .ok ()
                ↔ output.flushFault = none
                  ∧ (block.encode = []
                    ∨ Fits output.limit (output.written ++ (earlier ++ [block]).flatMap Block.encode))))
      ∧ (∀ block output, Sink.ofStream.send block output = send block output)
      ∧ ∀ (ω : Type) (sink : Sink ω) (limit : Option Nat) (taken : ω → Bytes) (sound : ω → Prop) (s : ω),
          sink.Keeps limit taken sound → sound s → Fits limit (taken s) →
            taken (sink.sendAll blocks s) = cut limit (taken s ++ blocks.flatMap Block.encode)
              ∧ ∀ earlier block later, blocks = earlier ++ block :: later →
                  ((sink.send block (sink.sendAll earlier s)).1 = .ok ()
                    ↔ (sink.flush (sink.writeAll block.encode (sink.sendAll earlier s)).2).1 = .ok ()
                      ∧ (block.encode = []
                        ∨ Fits limit (taken s ++ (earlier ++ [block]).flatMap Block.encode))) := by
  refine ⟨?_, fun _ _ => rfl, ?_⟩
  · intro output hatOnce hfits
    refine ⟨written_sendAll_eq_cut hatOnce hfits blocks, ?_⟩
    intro earlier block _ _
    exact send_sendAll_eq_ok_iff hatOnce hfits earlier block
  · intro ω sink limit taken sound s h hs hfits
    refine ⟨(h.sendAll blocks hs hfits).1, ?_⟩
    intro earlier block _ _
    exact h.send_iff earlier block hs hfits

/-- Three blocks with bytes, of which the last does not fit, and one without. -/
def cutBlocks : List Block :=
  [[[Bytes.ofString "OK"]], [[Bytes.ofString "PATHNAME", Bytes.ofString "m.gcm"]],
    [[Bytes.ofString "ERROR"], [Bytes.ofString "OK"]], []]

/-- On an unsteady sink the second block fits, and is said not to be sent as the flush fails; the third does
    not fit; and the last is sent, having no bytes. -/
theorem send_survives_short_writes_cutBlocks :
    (sendAll cutBlocks ({} : Unsteady 24)).written = Bytes.ofString "OK\nPATHNAME m.gcm\nERROR "
      ∧ (send cutBlocks[0] ({} : Unsteady 24)).1 = .ok ()
      ∧ (send cutBlocks[1] (sendAll (cutBlocks.take 1) ({} : Unsteady 24))).1 ≠ .ok ()
      ∧ (send cutBlocks[2] (sendAll (cutBlocks.take 2) ({} : Unsteady 24))).1 ≠ .ok ()
      ∧ (send cutBlocks[3] (sendAll (cutBlocks.take 3) ({} : Unsteady 24))).1 = .ok () := by
  obtain ⟨htaken, hsent⟩ := (send_survives_short_writes cutBlocks).2.2 _ Unsteady.sink (some 24)
    Unsteady.written (fun _ => True) {} (Unsteady.keeps 24) trivial (by decide)
  refine ⟨htaken.trans (by decide), ?_, ?_, ?_, ?_⟩
  · exact (hsent [] cutBlocks[0] (cutBlocks.drop 1) rfl).mpr ⟨by decide +kernel, Or.inr (by decide)⟩
  · intro h
    have hflushed := ((hsent (cutBlocks.take 1) cutBlocks[1] (cutBlocks.drop 2) rfl).mp h).1
    exact absurd hflushed (by decide +kernel)
  · intro h
    have hfits := ((hsent (cutBlocks.take 2) cutBlocks[2] (cutBlocks.drop 3) rfl).mp h).2
    exact absurd hfits (by decide)
  · exact (hsent (cutBlocks.take 3) cutBlocks[3] [] rfl).mpr ⟨by decide +kernel, Or.inl rfl⟩

end Wire

end ModuleMapper
