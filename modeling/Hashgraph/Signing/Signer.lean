import Hashgraph.Digest.Blake3
import Hashgraph.Event.Hash
import Hashgraph.Signing.Ed25519

/-! Keys of nodes, signatures of event hashes and their verification. -/

namespace Hashgraph

namespace Ed25519.KeyPair

def nodeKeyContext : String := "tipset 2024 node signing seed v1"

def ofMaster (master : Bytes) (node : NodeId) : KeyPair :=
  ofSeed (Blake3.deriveKey nodeKeyContext (master ++ Bytes.word64 node.number))

def inspect (key : KeyPair) : String := "Ed25519HashSigner(" ++ Bytes.toHex (key.publicKey.take 8) ++ ")"

end Ed25519.KeyPair

inductive Signer where
  | absent
  | ed25519 (key : Ed25519.KeyPair)

def Signer.sign : Signer → EventHash → Signature
  | .absent, _ => .absent
  | .ed25519 key, hash => ⟨Ed25519.sign key hash.toBytes⟩

inductive SignatureError where
  | invalidPublicKey
  | invalidLength
  | failed
deriving DecidableEq

def SignatureError.message : SignatureError → String
  | .invalidPublicKey => "Invalid public key: signature error: Cannot decompress Edwards point"
  | .invalidLength => "Invalid signature: Invalid Ed25519 signature length"
  | .failed => "Signature verification failed"

def Signature.verify (signature : Signature) (publicKey : Bytes) (hash : EventHash) : Except SignatureError Unit :=
  match Ed25519.verify publicKey hash.toBytes signature.bytes with
  | .valid => .ok ()
  | .undecodableKey => .error .invalidPublicKey
  | .wrongLength => .error .invalidLength
  | .mismatch => .error .failed

end Hashgraph
