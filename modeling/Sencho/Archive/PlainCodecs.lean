import Sencho.Archive.Envelope

/-!
# Codecs that only frame

A tar that frames each name and each body, a compression that only marks its object, and a
cipher that leaves a text as it is: they decode what they encoded, and nothing else is asked of
the libraries in their place.
-/

namespace Sencho.Archive

open Verified List

/-- Some bytes, each behind a mark, and an end. -/
def frame : Bytes → Bytes
  | [] => [0]
  | b :: bs => 1 :: b :: frame bs

/-- The bytes of a frame, and those behind it. -/
def unframe : Bytes → Option (Bytes × Bytes)
  | mark :: rest =>
    if mark = 0 then some ([], rest)
    else
      match rest with
      | b :: rest => (unframe rest).map fun r => (b :: r.1, r.2)
      | [] => none
  | [] => none

/-- A framed block is read back. -/
theorem unframe_frame (bs rest : Bytes) : unframe (frame bs ++ rest) = some (bs, rest) := by
  have hmark : ¬ (1 : UInt8) = 0 := by decide
  induction bs with
  | nil =>
    rw [frame, singleton_append, unframe.eq_def]
    rfl
  | cons b bs ih =>
    rw [frame, cons_append, cons_append, unframe.eq_def]
    dsimp only
    rw [if_neg hmark, ih]
    rfl

/-- Entries packed one after another. -/
def packPlain : List (Text × Bytes) → Bytes
  | [] => [0]
  | e :: es => 1 :: (frame (Utf8.encode e.1) ++ (frame e.2 ++ packPlain es))

/-- Read packed entries. -/
def extractPlain : Nat → Bytes → List TarEntry × Bool
  | 0, _ => ([], false)
  | _, [] => ([], false)
  | fuel + 1, mark :: rest =>
    if mark = 0 then ([], true)
    else
      match unframe rest with
      | none => ([], false)
      | some (name, rest) =>
        match unframe rest with
        | none => ([], false)
        | some (body, rest) =>
          let r := extractPlain fuel rest
          (⟨true, Utf8.decode name, body.length, body⟩ :: r.1, r.2)

/-- Codecs that copy. -/
def plainCodecs : Codecs where
  pack := packPlain
  extract := fun b => extractPlain b.length b
  gzip := fun b => 0x1f :: 0x8b :: b
  gunzip
    | 0x1f :: 0x8b :: rest => some rest
    | _ => none
  scrypt := fun passphrase _ => Utf8.encode passphrase
  encipher := fun _ _ b => (b, List.replicate tagLen 0)
  decipher := fun _ _ tag b =>
    if tag = List.replicate tagLen 0 then .ok b else .error .authentication

/-- Packing is read back. -/
theorem extractPlain_packPlain {es : List (Text × Bytes)}
    (h : ∀ e ∈ es, Utf8.decode (Utf8.encode e.1) = e.1) {fuel : Nat}
    (hfuel : (packPlain es).length ≤ fuel) :
    extractPlain fuel (packPlain es) =
      (es.map fun e => ⟨true, e.1, e.2.length, e.2⟩, true) := by
  have hmark : ¬ (1 : UInt8) = 0 := by decide
  induction es generalizing fuel with
  | nil =>
    cases fuel with
    | zero => exact absurd hfuel (by decide)
    | succ fuel => rfl
  | cons e es ih =>
    cases fuel with
    | zero =>
      rw [packPlain, length_cons] at hfuel
      omega
    | succ fuel =>
      rw [packPlain, length_cons, length_append, length_append] at hfuel
      have hrest : extractPlain fuel (packPlain es) =
          (es.map fun e => ⟨true, e.1, e.2.length, e.2⟩, true) :=
        ih (fun e' he' => h e' (mem_cons_of_mem e he')) (by omega)
      rw [packPlain, extractPlain, if_neg hmark, unframe_frame]
      dsimp only
      rw [unframe_frame]
      dsimp only
      rw [hrest, h e mem_cons_self]
      rfl

/-- What is documented of the libraries holds of them. -/
theorem plainCodecs_decodes : plainCodecs.Decodes where
  extract_pack := fun es h => by
    refine extractPlain_packPlain (fun e he => ?_) (.refl)
    have hstorable := (h e he).1
    unfold isArchiveStorableName at hstorable
    rw [Bool.and_eq_true, decide_eq_true_eq] at hstorable
    exact hstorable.2
  gunzip_gzip := fun _ => rfl
  gzip_magic := fun b => ⟨b, rfl⟩
  decipher_encipher := fun _ _ _ => rfl
  tag_length := fun _ _ _ => length_replicate

end Sencho.Archive
