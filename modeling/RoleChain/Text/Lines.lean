/-!
Line ends. Text files may end a line with a line feed, a carriage return, or both in that order
reversed; reading them as text leaves line feeds only.
-/
namespace RoleChain.Text

/-- Every carriage return, with the line feed after it if there is one, becomes one line feed. -/
def lineFeeds : List Char → List Char
  | [] => []
  | '\r' :: '\n' :: rest => '\n' :: lineFeeds rest
  | c :: rest => (if c = '\r' then '\n' else c) :: lineFeeds rest

end RoleChain.Text
