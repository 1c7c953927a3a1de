import ModuleMapper.Proofs.Names
import ModuleMapper.Artifact

/-!
# Artifacts — what the path of an artifact is made of

  A digest is 64 hexadecimal digits.  The path of an artifact is its *shards*, which are pairs of these
  digits or nothing at all, and behind them its *file name*, which starts with the digest (`solid_path`).
  What a client says of itself gets into the file name only, and as long as it holds no slash that is a
  single name (`solid_fileName_of_isFlat`).
-/

namespace ModuleMapper

namespace Digest

/-- A hexadecimal digit, as an ASCII byte in lower case. -/
def IsHexDigit (b : UInt8) : Prop := 0x30 ≤ b ∧ b ≤ 0x39 ∨ 0x61 ≤ b ∧ b ≤ 0x66

theorem IsHexDigit.ne_slash {b : UInt8} (h : IsHexDigit b) : b ≠ Byte.slash := by
  rintro rfl
  revert h
  unfold IsHexDigit
  decide

theorem IsHexDigit.ne_dot {b : UInt8} (h : IsHexDigit b) : b ≠ Byte.dot := by
  rintro rfl
  revert h
  unfold IsHexDigit
  decide

theorem isHexDigit_hexByte {n : UInt8} (h : n < 16) : IsHexDigit (hexByte n) := by
  unfold hexByte IsHexDigit
  split
  · grind
  · grind

/-- A byte string in hexadecimal is made of digits. -/
theorem isHexDigit_of_mem_hex {bytes : Bytes} {b : UInt8} (h : b ∈ hex bytes) : IsHexDigit b := by
  obtain ⟨byte, -, hb⟩ := List.mem_flatMap.mp h
  have hhigh : byte >>> 4 < 16 := by
    rw [UInt8.lt_iff_toNat_lt, UInt8.toNat_shiftRight]
    show byte.toNat >>> 4 < 16
    rw [Nat.shiftRight_eq_div_pow]
    have := byte.toNat_lt
    omega
  have hlow : byte &&& 0x0F < 16 := by
    rw [UInt8.lt_iff_toNat_lt, UInt8.toNat_and]
    exact Nat.lt_succ_of_le Nat.and_le_right
  rcases List.mem_cons.mp hb with rfl | hb
  · exact isHexDigit_hexByte hhigh
  · rw [List.mem_singleton.mp hb]
    exact isHexDigit_hexByte hlow

end Digest

namespace Path

/-- A name that counts, without a slash, is a path of one name. -/
theorem solid_of_not_mem {path : Path} (hslash : Byte.slash ∉ path) (hlong : 2 ≤ path.length) :
    solid path = [path] := by
  have hfiller : isFiller path = false := by
    match path, hlong with
    | _ :: _ :: _, _ => simp [isFiller]
  rw [solid, names_of_not_mem hslash, solidOf_cons hfiller]
  rfl

end Path

/-- A client that says nothing of itself that could lead out of a directory, or into one. -/
def Client.IsFlat (client : Client) : Prop :=
  Byte.slash ∉ client.compiler ∧ Byte.slash ∉ client.build

instance (client : Client) : Decidable client.IsFlat :=
  inferInstanceAs (Decidable (_ ∧ _))

namespace Artifact

variable (name : Word) (crossPrefix : String) (client : Client)

/-- The directories inside the repository that an artifact lies in. -/
def shards : List Bytes :=
  if client.build = [] then
    [(digest name crossPrefix).take 2, ((digest name crossPrefix).drop 2).take 2]
  else []

/-- The part of an artifact's path that is behind these directories. -/
def fileName : Bytes :=
  key name crossPrefix client ++ if client.build = [] then Bytes.ofString ".cmi" else []

theorem length_digest : (digest name crossPrefix).length = 64 := rfl

variable {name crossPrefix client}

theorem isHexDigit_of_mem_digest {b : UInt8} (h : b ∈ digest name crossPrefix) :
    Digest.IsHexDigit b := Digest.isHexDigit_of_mem_hex h

/-- What starts with a digit is no absolute path. -/
theorem isAbsolute_append {digits : Bytes} (hne : digits ≠ [])
    (h : ∀ b ∈ digits, Digest.IsHexDigit b) (rest : Bytes) :
    Path.isAbsolute (digits ++ rest) = false := by
  obtain ⟨b, others, rfl⟩ := List.exists_cons_of_ne_nil hne
  have hb := (h b List.mem_cons_self).ne_slash
  simpa [Path.isAbsolute] using hb

theorem isAbsolute_fileName : Path.isAbsolute (fileName name crossPrefix client) = false := by
  rw [fileName, key, keyOf, List.append_assoc, List.append_assoc]
  exact isAbsolute_append (List.cons_ne_nil _ _) (fun b => isHexDigit_of_mem_digest) _

/-- A file name is longer than a digest. -/
theorem length_fileName : 64 < (fileName name crossPrefix client).length := by
  rw [fileName, key, keyOf]
  simp only [List.length_append, List.length_cons, length_digest]
  omega

theorem up_ne_fileName : Path.up ≠ fileName name crossPrefix client := by
  intro heq
  have hlength : 64 < Path.up.length := heq ▸ length_fileName
  exact absurd hlength (by decide)

/-- A shard is two digits. -/
theorem length_of_mem_shards {shard : Bytes} (h : shard ∈ shards name crossPrefix client) :
    shard.length = 2 ∧ ∀ b ∈ shard, Digest.IsHexDigit b := by
  unfold shards at h
  split at h
  · rcases List.mem_cons.mp h with rfl | h
    · exact ⟨rfl, fun b hb => isHexDigit_of_mem_digest (List.mem_of_mem_take hb)⟩
    · rw [List.mem_singleton.mp h]
      exact ⟨rfl, fun b hb =>
        isHexDigit_of_mem_digest (List.mem_of_mem_drop (List.mem_of_mem_take hb))⟩
  · cases h

/-- No shard leads up. -/
theorem up_not_mem_shards : Path.up ∉ shards name crossPrefix client := fun h =>
  ((length_of_mem_shards h).2 Byte.dot List.mem_cons_self).ne_dot rfl

/-- A shard is a path of one name, inside the directory it is taken from. -/
theorem solid_of_mem_shards {shard : Bytes} (h : shard ∈ shards name crossPrefix client) :
    Path.solid shard = [shard] ∧ Path.isAbsolute shard = false := by
  obtain ⟨hlength, hdigits⟩ := length_of_mem_shards h
  have hne : shard ≠ [] := by
    rintro rfl
    cases hlength
  have hslash : Byte.slash ∉ shard := fun hmem => (hdigits _ hmem).ne_slash rfl
  refine ⟨Path.solid_of_not_mem hslash (Nat.le_of_eq hlength.symm), ?_⟩
  have happend := isAbsolute_append hne hdigits []
  rwa [List.append_nil] at happend

/-- **The path of an artifact is its shards, and its file name behind them**, taken from where it is. -/
theorem solid_path (name : Word) (crossPrefix : String) (client : Client) :
    Path.solid (path name crossPrefix client)
        = shards name crossPrefix client ++ Path.solid (fileName name crossPrefix client)
      ∧ Path.isAbsolute (path name crossPrefix client) = false := by
  have hfile : Path.isAbsolute (fileName name crossPrefix client) = false := isAbsolute_fileName
  by_cases hbuild : client.build = []
  · have hshards : shards name crossPrefix client
        = [(digest name crossPrefix).take 2, ((digest name crossPrefix).drop 2).take 2] := if_pos hbuild
    have hpath : path name crossPrefix client
        = Path.join (Path.join ((digest name crossPrefix).take 2)
            (((digest name crossPrefix).drop 2).take 2)) (fileName name crossPrefix client) := by
      simp only [path, fileName, key, if_pos hbuild]
    obtain ⟨hfirst, hfirst_relative⟩ := solid_of_mem_shards
      (hshards ▸ List.mem_cons_self : (digest name crossPrefix).take 2 ∈ shards name crossPrefix client)
    obtain ⟨hsecond, hsecond_relative⟩ := solid_of_mem_shards
      (hshards ▸ List.mem_cons_of_mem _ List.mem_cons_self :
        ((digest name crossPrefix).drop 2).take 2 ∈ shards name crossPrefix client)
    have hne : (digest name crossPrefix).take 2 ≠ [] := List.cons_ne_nil _ _
    rw [hpath, hshards, Path.solid_join hfile, Path.solid_join hsecond_relative, hfirst, hsecond,
      Path.isAbsolute_join (Path.join_ne_nil hne) hfile, Path.isAbsolute_join hne hsecond_relative]
    exact ⟨rfl, hfirst_relative⟩
  · have hshards : shards name crossPrefix client = [] := if_neg hbuild
    have hpath : path name crossPrefix client = fileName name crossPrefix client := by
      simp only [path, fileName, key, if_neg hbuild, List.append_nil]
    rw [hpath, hshards]
    exact ⟨rfl, hfile⟩

/-- The file name for a flat client is a single name. -/
theorem solid_fileName_of_isFlat (h : client.IsFlat) :
    Path.solid (fileName name crossPrefix client) = [fileName name crossPrefix client] := by
  refine Path.solid_of_not_mem ?_ (Nat.le_trans (by decide) (Nat.le_of_lt length_fileName))
  have hdigest : Byte.slash ∉ digest name crossPrefix := fun hmem =>
    (isHexDigit_of_mem_digest hmem).ne_slash rfl
  have hsuffix : Byte.slash ∉ (if client.build = [] then Bytes.ofString ".cmi" else []) := by
    split
    · decide
    · exact List.not_mem_nil
  have hbuild : Byte.slash ∉ (if client.build = [] then [] else Byte.dash :: client.build) := by
    split
    · exact List.not_mem_nil
    · rw [List.mem_cons, not_or]
      exact ⟨by decide, h.2⟩
  have hdash : Byte.slash ≠ Byte.dash := by decide
  simp only [fileName, key, keyOf, List.mem_append, List.mem_cons, not_or]
  exact ⟨⟨⟨hdigest, hbuild⟩, hdash, h.1⟩, hsuffix⟩

end Artifact

end ModuleMapper
