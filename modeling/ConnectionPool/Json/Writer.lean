import ConnectionPool.Json.Token

/-! From documents to tokens and text: no blanks, members and items in the order they have. -/
namespace ConnectionPool.Json

mutual

def tokensOf : Document → List Token
  | .list items => .openList :: itemTokens items ++ [.closeList]
  | .table members => .openTable :: memberTokens members ++ [.closeTable]
  | .text s | .moment s => [.text (some s)]
  | d => [.scalar d]

def itemTokens : List Document → List Token
  | [] => []
  | [d] => tokensOf d
  | d :: rest => tokensOf d ++ .comma :: itemTokens rest

def memberTokens : List (Option String × Document) → List Token
  | [] => []
  | [m] => memberToken m
  | m :: rest => memberToken m ++ .comma :: memberTokens rest

def memberToken : Option String × Document → List Token
  | (name, d) => .text (some (name.getD "")) :: .colon :: tokensOf d

end

def write (d : Document) : List Char := (tokensOf d).flatMap Token.write

end ConnectionPool.Json
