import ConnectionPool.Digest.Sha256

/-! The type code of a connection target: a fingerprint of its url, user name and password. Two
connections may stand in for one another when their codes agree. -/
namespace ConnectionPool

def targetBytes (url : String) (username password : Option String) : List UInt8 :=
  url.toUTF8.toList ++ 0 :: (username.getD "").toUTF8.toList ++ 0 :: (password.getD "").toUTF8.toList

def typeCode (url : String) (username password : Option String) : UInt64 :=
  (Sha256.digest (targetBytes url username password)).leading

end ConnectionPool
