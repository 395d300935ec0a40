import PdbGo.Core.Bytes
import PdbGo.Core.Reader
import PdbGo.Core.NumericLeaf
import PdbGo.Core.Source
import PdbGo.Msf.SuperBlock
import PdbGo.Msf.Stream
import PdbGo.Msf.Directory
import PdbGo.Msf.DirectoryReader
import PdbGo.Msf.File
import PdbGo.Msf.Layout
import PdbGo.Symbols.Record
import PdbGo.Symbols.Walk
import PdbGo.Symbols.Layout
import PdbGo.Symbols.NameIndex
import PdbGo.Symbols.AddressIndex
import PdbGo.Pdb.Symbol
import PdbGo.Pdb.SymbolTable
import PdbGo.Pdb.Module
import PdbGo.Pdb.SymbolStream
import PdbGo.Pdb.Info
import PdbGo.Pdb.Sections
import PdbGo.Tpi.Stream
import PdbGo.Dbi.Stream
import PdbGo.Dbi.Layout
import PdbGo.Tpi.Records
import PdbGo.Tpi.Layout
import PdbGo.Tpi.Leaves
import PdbGo.Pdb.TypeTable
import PdbGo.Pdb.Types
import PdbGo.Pdb.TypeCache
import PdbGo.Pdb.TypeStream
import PdbGo.Pdb.TypeLeaves
import PdbGo.Demangle.Ast
import PdbGo.Demangle.Parse
import PdbGo.Demangle.Wp
import PdbGo.Demangle.Termination
import PdbGo.Demangle.Scope
