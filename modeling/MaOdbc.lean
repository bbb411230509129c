import MaOdbc.Stmt.Passes
import MaOdbc.Stmt.Locks
import MaOdbc.Cursor.Positions
import MaOdbc.Cursor.Names
import MaOdbc.Stmt.Texts
import MaOdbc.Stmt.ReturnCodes
import MaOdbc.Stmt.Statements
import MaOdbc.Stmt.CombinedInsert
import MaOdbc.Cursor.Dynamic
import MaOdbc.Cursor.RowErrors
import MaOdbc.Cursor.DeleteRows
import MaOdbc.Cursor.RowsetSize
import MaOdbc.Cursor.SetPosition
import MaOdbc.Cursor.PositionedDelete
import MaOdbc.Cursor.AddRows
import MaOdbc.Stmt.BatchResults
import MaOdbc.Wide.GetWide
import MaOdbc.Desc.Explicit
import MaOdbc.Dsn.Strings
import MaOdbc.Stmt.RowsPrepared
import MaOdbc.Parse.Routines
import MaOdbc.Conn.EndTran
import MaOdbc.Auth.BrowserCommand
import MaOdbc.Auth.Jwt
import MaOdbc.Dsn.Unknown
import MaOdbc.Conv.Integers
import MaOdbc.Catalog.PrimaryKeys
import MaOdbc.Dsn.Save
import MaOdbc.Conv.Numeric
import MaOdbc.Param.DynArray
import MaOdbc.Param.PutData
import MaOdbc.Stmt.Values
