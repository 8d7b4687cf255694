namespace QuerySql.Sql

def doubleQuotes (quote : Char) : List Char → List Char
  | [] => []
  | char :: rest =>
      if char = quote then quote :: quote :: doubleQuotes quote rest
      else char :: doubleQuotes quote rest

def identifierChars (quote : Char) (name : List Char) : List Char :=
  quote :: doubleQuotes quote name ++ [quote]

def identifier (quote : Char) (name : String) : String :=
  String.ofList (identifierChars quote name.toList)

end QuerySql.Sql
