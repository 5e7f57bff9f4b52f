import IdentityGateway.Password

/-!
# A light digest

The gateway stores passwords by whatever scheme it is started with. Where it runs without a
slow hash, it is started with this scheme: its digests are made in one pass and protect
nothing.
-/

namespace IdentityGateway.Password

/-- One step of the pass over the bytes of a salt and a password. -/
def mixByte (h : UInt64) (b : UInt8) : UInt64 :=
  (h ^^^ b.toUInt64) * 0x100000001B3

/-- A word in which every bit depends on every bit. -/
def avalanche (h : UInt64) : UInt64 :=
  let h := (h ^^^ (h >>> 33)) * 0xFF51AFD7ED558CCD
  let h := (h ^^^ (h >>> 33)) * 0xC4CEB9FE1A85EC53
  h ^^^ (h >>> 33)

/-- The word that some bytes are mixed into from a start. -/
def mixedWord (bytes : List UInt8) (start : UInt64) : UInt64 :=
  avalanche (bytes.foldl mixByte start)

/-- A word as bytes, to be written in the letters that stored digests have. -/
def wordBytes (h : UInt64) : List UInt8 :=
  [h, h >>> 8, h >>> 16, h >>> 24, h >>> 32, h >>> 40, h >>> 48, h >>> 56].map (·.toUInt8)

/-- Where the four words of a digest start, so that they differ for the same bytes. -/
def digestStarts : List UInt64 :=
  [0xCBF29CE484222325, 0x9E3779B97F4A7C15, 0xD1B54A32D192ED03, 0x8CB92BA72F3D8DD7]

/-- A digest of 256 bits, made in one pass. -/
def lightDigest (salt : List Char) (password : String) : List Char :=
  let bytes := (String.ofList salt).toUTF8.toList ++ 0 :: password.toUTF8.toList
  base64 (digestStarts.flatMap fun start => wordBytes (mixedWord bytes start))

/-- The scheme of the light digest. Its texts have the form and the parameters of those that
the slow hash makes. -/
def lightScheme : Scheme where
  label := ["argon2id".toList, "v=19".toList, "m=19456,t=2,p=1".toList]
  digest salt password := .ok (lightDigest salt password)

end IdentityGateway.Password
