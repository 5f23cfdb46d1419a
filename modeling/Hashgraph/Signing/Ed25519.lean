import Hashgraph.Digest.Sha512
import Hashgraph.Signing.Curve

/-! Ed25519 signatures. Verification compares the encoding of the recomputed commitment with the one in
the signature; the cofactor is not cleared. -/

namespace Hashgraph.Ed25519

structure KeyPair where
  scalar : Nat
  nonceKey : Bytes
  publicKey : Bytes

def clamp (number : Nat) : Nat := number % Nat.pow 2 254 / 8 * 8 + Nat.pow 2 254

def KeyPair.ofSeed (seed : Bytes) : KeyPair :=
  let digest := Sha512.hash seed
  let scalar := clamp (Bytes.ofLittleEndian (digest.take 32))
  ⟨scalar, digest.drop 32, (Curve.baseTimes scalar).encode⟩

def reduced (message : Bytes) : Nat := Bytes.ofLittleEndian (Sha512.hash message) % Curve.order

def sign (key : KeyPair) (message : Bytes) : Bytes :=
  let nonce := reduced (key.nonceKey ++ message)
  let commitment := (Curve.baseTimes nonce).encode
  let challenge := reduced (commitment ++ key.publicKey ++ message)
  commitment ++ Bytes.littleEndian 32 ((nonce + challenge * key.scalar) % Curve.order)

inductive Verdict where
  | valid
  | undecodableKey
  | wrongLength
  | mismatch
deriving DecidableEq

def verify (publicKey message signature : Bytes) : Verdict :=
  match Curve.decode? publicKey with
  | none => .undecodableKey
  | some point =>
      if signature.length ≠ 64 then .wrongLength
      else
        let commitment := signature.take 32
        let response := Bytes.ofLittleEndian (signature.drop 32)
        if response ≥ Curve.order then .mismatch
        else
          let challenge := reduced (commitment ++ publicKey ++ message)
          let expected := (Curve.baseTimes response).plus (point.negate.times challenge)
          if expected.encode = commitment then .valid else .mismatch

end Hashgraph.Ed25519
