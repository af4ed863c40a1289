/-! The IRIs with a meaning of their own: those of RDF, RDF Schema, OWL, SHACL and XML Schema, and
the extension terms that mark classes for code generation. -/

namespace ShapeCompiler.Rdf.Vocabulary

def rdfType := "http://www.w3.org/1999/02/22-rdf-syntax-ns#type"
def rdfFirst := "http://www.w3.org/1999/02/22-rdf-syntax-ns#first"
def rdfRest := "http://www.w3.org/1999/02/22-rdf-syntax-ns#rest"
def rdfNil := "http://www.w3.org/1999/02/22-rdf-syntax-ns#nil"
def rdfLangString := "http://www.w3.org/1999/02/22-rdf-syntax-ns#langString"
def rdfJson := "http://www.w3.org/1999/02/22-rdf-syntax-ns#JSON"

def rdfsSubClassOf := "http://www.w3.org/2000/01/rdf-schema#subClassOf"
def rdfsRange := "http://www.w3.org/2000/01/rdf-schema#range"
def rdfsComment := "http://www.w3.org/2000/01/rdf-schema#comment"

def owlClass := "http://www.w3.org/2002/07/owl#Class"
def owlDeprecatedClass := "http://www.w3.org/2002/07/owl#DeprecatedClass"
def owlDeprecatedProperty := "http://www.w3.org/2002/07/owl#DeprecatedProperty"
def owlNamedIndividual := "http://www.w3.org/2002/07/owl#NamedIndividual"

def shProperty := "http://www.w3.org/ns/shacl#property"
def shPath := "http://www.w3.org/ns/shacl#path"
def shName := "http://www.w3.org/ns/shacl#name"
def shClass := "http://www.w3.org/ns/shacl#class"
def shDatatype := "http://www.w3.org/ns/shacl#datatype"
def shIn := "http://www.w3.org/ns/shacl#in"
def shPattern := "http://www.w3.org/ns/shacl#pattern"
def shMinCount := "http://www.w3.org/ns/shacl#minCount"
def shMaxCount := "http://www.w3.org/ns/shacl#maxCount"
def shNodeKind := "http://www.w3.org/ns/shacl#nodeKind"
def shNot := "http://www.w3.org/ns/shacl#not"
def shHasValue := "http://www.w3.org/ns/shacl#hasValue"
def shIri := "http://www.w3.org/ns/shacl#IRI"
def shBlankNode := "http://www.w3.org/ns/shacl#BlankNode"
def shBlankNodeOrIri := "http://www.w3.org/ns/shacl#BlankNodeOrIRI"

def xsdString := "http://www.w3.org/2001/XMLSchema#string"
def xsdAnyUri := "http://www.w3.org/2001/XMLSchema#anyURI"
def xsdDateTime := "http://www.w3.org/2001/XMLSchema#dateTime"
def xsdDateTimeStamp := "http://www.w3.org/2001/XMLSchema#dateTimeStamp"
def xsdInteger := "http://www.w3.org/2001/XMLSchema#integer"
def xsdNonNegativeInteger := "http://www.w3.org/2001/XMLSchema#nonNegativeInteger"
def xsdPositiveInteger := "http://www.w3.org/2001/XMLSchema#positiveInteger"
def xsdDecimal := "http://www.w3.org/2001/XMLSchema#decimal"
def xsdDouble := "http://www.w3.org/2001/XMLSchema#double"
def xsdBoolean := "http://www.w3.org/2001/XMLSchema#boolean"

def idPropertyName := "https://jpewdev.github.io/shacl2code/schema#idPropertyName"

def isExtensible := "https://jpewdev.github.io/shacl2code/schema#isExtensible"

def isAbstract := "https://jpewdev.github.io/shacl2code/schema#isAbstract"

/-- An older mark of classes without instances of their own. -/
def abstractClass := "https://jpewdev.github.io/shacl2code/schema#AbstractClass"

end ShapeCompiler.Rdf.Vocabulary
